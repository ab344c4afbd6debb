import Diagnostics.Unicode.Letter
import Diagnostics.Unicode.Space
import Diagnostics.Unicode.Folding

/-!
# Sets of characters

A character class is kept as the expression it was written as: spans, the named classes, tables, and the set
operations between them. Membership follows the expression, so a law about an operation is one step of
evaluation. Closing a set under case is an operation like the others: a character belongs to the closure
if one of its case variants belongs to the set. So is keeping the ASCII characters of a set.
-/

namespace Diagnostics

/-- A set of characters, as an expression. -/
inductive CharSet
  | none
  | any
  | span (first last : Char)
  | digit
  | space
  | word
  | ranges (table : Unicode.Ranges)
  | union (a b : CharSet)
  | inter (a b : CharSet)
  | diff (a b : CharSet)
  | symmDiff (a b : CharSet)
  | compl (a : CharSet)
  | folded (a : CharSet)
  | ascii (a : CharSet)
  deriving DecidableEq

namespace CharSet

/-- The characters of the set. -/
def contains : CharSet → Char → Bool
  | none, _ => false
  | any, _ => true
  | span first last, c => first ≤ c && c ≤ last
  | digit, c => Unicode.isDigit c
  | space, c => Unicode.isSpace c
  | word, c => Unicode.isWord c
  | ranges table, c => table.contains c.toNat
  | union a b, c => a.contains c || b.contains c
  | inter a b, c => a.contains c && b.contains c
  | diff a b, c => a.contains c && !b.contains c
  | symmDiff a b, c => a.contains c != b.contains c
  | compl a, c => !a.contains c
  | folded a, c => (Unicode.caseVariants c).any a.contains
  | ascii a, c => c.toNat < 128 && a.contains c

/-- The set was made by keeping the ASCII characters of another. -/
def isAscii : CharSet → Bool
  | ascii _ => true
  | _ => false

/-- The set of one character. -/
def single (c : Char) : CharSet := span c c

/-- The union of a list of sets. -/
def unions : List CharSet → CharSet
  | [] => none
  | [s] => s
  | s :: rest => union s (unions rest)

/-- Every character but the line feed. -/
def notNewline : CharSet := compl (single '\n')

/-- Every character but the carriage return and the line feed. -/
def notLineEnd : CharSet := compl (union (single '\r') (single '\n'))

/-! ## Membership, operation by operation -/

theorem contains_single (c d : Char) : (single c).contains d = (c == d) := by
  rw [Bool.eq_iff_iff]
  simp only [single, contains, Bool.and_eq_true, decide_eq_true_eq, beq_iff_eq]
  exact ⟨fun h => Char.le_antisymm h.1 h.2, fun h => h ▸ ⟨Char.le_refl _, Char.le_refl _⟩⟩

@[simp] theorem contains_union (a b : CharSet) (c : Char) :
    (union a b).contains c = (a.contains c || b.contains c) := rfl

@[simp] theorem contains_compl (a : CharSet) (c : Char) : (compl a).contains c = !a.contains c := rfl

theorem contains_notNewline (c : Char) : notNewline.contains c = !('\n' == c) := by
  rw [notNewline, contains_compl, contains_single]

end CharSet

/-! ## Named classes -/

/-- The bracket names such as `[:alpha:]`, all of them ASCII. -/
inductive PosixClass
  | alnum | alpha | ascii | blank | cntrl | digit | graph | lower | print | punct | space | upper | word
  | xdigit
  deriving DecidableEq

namespace PosixClass

/-- The class with the given name. -/
def ofName? : String → Option PosixClass
  | "alnum" => some alnum
  | "alpha" => some alpha
  | "ascii" => some ascii
  | "blank" => some blank
  | "cntrl" => some cntrl
  | "digit" => some digit
  | "graph" => some graph
  | "lower" => some lower
  | "print" => some print
  | "punct" => some punct
  | "space" => some space
  | "upper" => some upper
  | "word" => some word
  | "xdigit" => some xdigit
  | _ => none

/-- The characters of the class. -/
def toSet : PosixClass → CharSet
  | alnum => .unions [.span '0' '9', .span 'A' 'Z', .span 'a' 'z']
  | alpha => .unions [.span 'A' 'Z', .span 'a' 'z']
  | ascii => .span '\x00' '\x7f'
  | blank => .unions [.single '\t', .single ' ']
  | cntrl => .unions [.span '\x00' '\x1f', .single '\x7f']
  | digit => .span '0' '9'
  | graph => .span '!' '~'
  | lower => .span 'a' 'z'
  | print => .span ' ' '~'
  | punct => .unions [.span '!' '/', .span ':' '@', .span '[' '\x60', .span '\x7b' '~']
  | space => .unions [.span '\t' '\r', .single ' ']
  | upper => .span 'A' 'Z'
  | word => .unions [.span '0' '9', .span 'A' 'Z', .single '_', .span 'a' 'z']
  | xdigit => .unions [.span '0' '9', .span 'A' 'F', .span 'a' 'f']

end PosixClass

/-- The one-letter classes `\d`, `\s` and `\w`. -/
inductive LetterClass
  | digit | space | word
  deriving DecidableEq

/-- The characters of the class. -/
def LetterClass.toSet : LetterClass → CharSet
  | digit => .digit
  | space => .space
  | word => .word

end Diagnostics
