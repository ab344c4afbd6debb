import Diagnostics.Regex.CharSet

/-!
# Written patterns

The tree of a pattern as it was written: flags are still marks in the text, counts are still counts, and a
bracket is still the list of its items. Sequences and alternatives lean to the right, an element of a
sequence is never a sequence itself, and the depth counts a whole sequence as one level.
-/

namespace Diagnostics.Regex

/-- Why a text is not a pattern. -/
inductive SyntaxError
  | unclosedGroup
  | unopenedGroup
  | unclosedClass
  | nothingToRepeat
  | countMissing
  | countTooLarge
  | countsOutOfOrder
  | unclosedCount
  | unfinishedEscape
  | unknownEscape (c : Char)
  | hexDigitExpected
  | notAScalar
  | backReference
  | lookAround
  | unfinishedFlags
  | unknownFlag (c : Char)
  | repeatedFlag
  | danglingNegation
  | badGroupName
  | repeatedGroupName (name : String)
  | spanOutOfOrder
  | notAClassItem
  | unknownBoundary
  | badProperty
  | unknownProperty
  | unknownPropertyValue
  | unicodeNotAllowed
  | notUtf8
  | nestedTooDeeply
  | tooLarge
  deriving DecidableEq

/-- A sentence for each cause. -/
def SyntaxError.describe : SyntaxError → String
  | unclosedGroup => "unclosed group"
  | unopenedGroup => "unopened group"
  | unclosedClass => "unclosed character class"
  | nothingToRepeat => "repetition operator missing expression"
  | countMissing => "repetition quantifier expects a valid decimal"
  | countTooLarge => "decimal literal invalid"
  | countsOutOfOrder => "invalid repetition count range, the start must be <= the end"
  | unclosedCount => "unclosed counted repetition"
  | unfinishedEscape => "incomplete escape sequence, reached end of pattern prematurely"
  | unknownEscape _ => "unrecognized escape sequence"
  | hexDigitExpected => "invalid hexadecimal digit"
  | notAScalar => "hexadecimal literal is not a Unicode scalar value"
  | backReference => "backreferences are not supported"
  | lookAround => "look-around, including look-ahead and look-behind, is not supported"
  | unfinishedFlags => "expected flag but got end of regex"
  | unknownFlag _ => "unrecognized flag"
  | repeatedFlag => "duplicate flag"
  | danglingNegation => "dangling flag negation operator"
  | badGroupName => "invalid capture group character"
  | repeatedGroupName _ => "duplicate capture group name"
  | spanOutOfOrder => "invalid character class range, the start must be <= the end"
  | notAClassItem => "invalid escape sequence found in character class"
  | unknownBoundary => "unrecognized special word boundary assertion"
  | badProperty => "invalid Unicode character class"
  | unknownProperty => "Unicode property not found"
  | unknownPropertyValue => "Unicode property value not found"
  | unicodeNotAllowed => "Unicode not allowed here"
  | notUtf8 => "pattern can match invalid UTF-8"
  | nestedTooDeeply => "exceeds the maximum number of nested parentheses/brackets (250)"
  | tooLarge => "Compiled regex exceeds size limit of 1073741824 bytes."

/-- The diagnostic for a rejected pattern. A pattern that reads well but needs too much room has a text of
its own. -/
def SyntaxError.message : SyntaxError → String
  | tooLarge => describe tooLarge
  | e => "regex parse error:\nerror: " ++ e.describe

/-! ## Assertions -/

/-- Places that are told by whether there are word characters on their two sides. -/
inductive WordPlace
  | boundary
  | notBoundary
  | start
  | stop
  | startHalf
  | stopHalf
  deriving DecidableEq

/-- Conditions on the characters around a position. Lines may end in a line feed, or in a carriage return, a line feed or
both; word characters may be those of all scripts or of ASCII. -/
inductive Assertion
  | textStart
  | textEnd
  | lineStart (crlf : Bool)
  | lineEnd (crlf : Bool)
  | word (ascii : Bool) (place : WordPlace)
  deriving DecidableEq

/-- The neighbour is a word character; the two ends of the text are not. -/
def isWordAt (ascii : Bool) (neighbour : Option Char) : Bool :=
  neighbour.any fun c => Unicode.isWord c && (!ascii || c.toNat < 128)

/-- Whether there is such a place between what are and are not word characters. -/
def WordPlace.holds (before after : Bool) : WordPlace → Bool
  | boundary => before != after
  | notBoundary => before == after
  | start => !before && after
  | stop => before && !after
  | startHalf => !before
  | stopHalf => !after

/-- Whether the assertion holds between the two neighbours of a position. Between a carriage return and a line feed no
line ends. -/
def Assertion.holds (a : Assertion) (before after : Option Char) : Bool :=
  match a with
  | textStart => before.isNone
  | textEnd => after.isNone
  | lineStart false => before.all (· == '\n')
  | lineEnd false => after.all (· == '\n')
  | lineStart true => before.all (· == '\n') || (before == some '\r' && after != some '\n')
  | lineEnd true => after.all (· == '\r') || (after == some '\n' && before != some '\r')
  | word ascii place => place.holds (isWordAt ascii before) (isWordAt ascii after)

/-- Assertions as written: `^` and `$` mean line or text ends as the flags say, and word characters are those of the
alphabet that the flags choose. -/
inductive Anchor
  | caret
  | dollar
  | textStart
  | textEnd
  | word (place : WordPlace)
  deriving DecidableEq

/-! ## Flags -/

/-- The flags of a pattern. -/
inductive Flag
  | ignoreCase
  | multiLine
  | dotAll
  | swapGreed
  | unicode
  | crlf
  | verbose
  deriving DecidableEq

/-- The letter of a flag. -/
def Flag.ofChar? : Char → Option Flag
  | 'i' => some .ignoreCase
  | 'm' => some .multiLine
  | 's' => some .dotAll
  | 'U' => some .swapGreed
  | 'u' => some .unicode
  | 'R' => some .crlf
  | 'x' => some .verbose
  | _ => none

/-- Flags with the value that each is set to, in the order written. -/
abbrev FlagChanges := List (Flag × Bool)

/-- The value that the changes give to a flag, if they mention it. -/
def FlagChanges.value? (changes : FlagChanges) (flag : Flag) : Option Bool :=
  changes.lookup flag

/-! ## Bracketed classes -/

/-- How a property of characters is named: by a name alone, or by a name and a value. -/
inductive PropertyName
  | alone (name : String)
  | valued (name value : String)
  deriving DecidableEq

/-- The set operations between the operands of a bracket. -/
inductive SetOperator
  | intersection
  | difference
  | symmetricDifference
  deriving DecidableEq

/-- The inside of a bracket. In a span of octets the first end that is past ASCII is written by two digits to the
base 16, as one octet would be. -/
inductive ClassItem
  | nothing
  | char (c : Char)
  | span (first last : Char)
  | octets (first last : Char)
  | posix (k : PosixClass) (negated : Bool)
  | letter (k : LetterClass) (negated : Bool)
  | property (name : PropertyName) (negated : Bool)
  | bracket (negated : Bool) (a : ClassItem)
  | union (a b : ClassItem)
  | combined (op : SetOperator) (a b : ClassItem)
  deriving DecidableEq

namespace ClassItem

/-- The items of a bracket as one item; a single item stands for itself. -/
def ofList : List ClassItem → ClassItem
  | [] => nothing
  | [a] => a
  | a :: rest => union a (ofList rest)

/-- The nesting depth; a union of many items is one level. -/
def depth : ClassItem → Nat
  | bracket _ a => a.depth + 1
  | union a b => max a.depth (match b with | union .. => b.depth - 1 | _ => b.depth) + 1
  | combined _ a b => max a.depth b.depth + 1
  | _ => 0

end ClassItem

/-! ## The tree -/

/-- What a pair of parentheses is for. -/
inductive GroupKind
  | capture (name : Option String)
  | plain (changes : FlagChanges)
  deriving DecidableEq

/-- A pattern as written. An octet is a character past ASCII that is written by two digits to the base 16. -/
inductive Ast
  | empty
  | flags (changes : FlagChanges)
  | char (c : Char)
  | octet (c : Char)
  | dot
  | anchor (a : Anchor)
  | letter (k : LetterClass) (negated : Bool)
  | property (name : PropertyName) (negated : Bool)
  | bracket (negated : Bool) (a : ClassItem)
  | capture (index : Nat) (a : Ast)
  | group (changes : FlagChanges) (a : Ast)
  | repeated (min : Nat) (max : Option Nat) (greedy : Bool) (a : Ast)
  | cat (a b : Ast)
  | alt (a b : Ast)
  deriving DecidableEq

namespace Ast

/-- A sequence; a single element stands for itself. -/
def sequence : List Ast → Ast
  | [] => empty
  | [a] => a
  | a :: rest => cat a (sequence rest)

/-- A choice; a single branch stands for itself. -/
def choice : List Ast → Ast
  | [] => empty
  | [a] => a
  | a :: rest => alt a (choice rest)

/-- The deepest nesting that a pattern may have. -/
def depthLimit : Nat := 250

/-- The nesting depth; a sequence, or a choice, of many elements is one level. -/
def depth : Ast → Nat
  | bracket _ a => a.depth + 1
  | capture _ a => a.depth + 1
  | group _ a => a.depth + 1
  | repeated _ _ _ a => a.depth + 1
  | cat a b => max a.depth (match b with | cat .. => b.depth - 1 | _ => b.depth) + 1
  | alt a b => max a.depth (match b with | alt .. => b.depth - 1 | _ => b.depth) + 1
  | _ => 0

/-- The number of capture groups. -/
def captureCount : Ast → Nat
  | capture _ a => a.captureCount + 1
  | group _ a => a.captureCount
  | repeated _ _ _ a => a.captureCount
  | cat a b => a.captureCount + b.captureCount
  | alt a b => a.captureCount + b.captureCount
  | _ => 0

/-- The number of states that the pattern needs once its counts are written out. -/
def weight : Ast → Nat
  | capture _ a => a.weight + 2
  | group _ a => a.weight
  | repeated min max _ a =>
    match max with
    | none => (min + 1) * (a.weight + 1)
    | some m => min * a.weight + (m - min) * (a.weight + 1)
  | cat a b => a.weight + b.weight
  | alt a b => a.weight + b.weight + 1
  | _ => 1

/-- The most states that a pattern may need: a ceiling of 2^30 bytes at 32 bytes for each. -/
def weightLimit : Nat := 33554432

end Ast

end Diagnostics.Regex
