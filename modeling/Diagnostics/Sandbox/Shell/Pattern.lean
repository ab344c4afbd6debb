import Diagnostics.Text.Octets

/-!
# Patterns

A star stands for any text, a question mark for one character, and brackets for one character of a set. What is
quoted stands for itself, and so does what follows a backslash.
-/

namespace Diagnostics.Sandbox

/-- A character of an expanded word. -/
structure Cell where
  char : Char
  quoted : Bool
  deriving DecidableEq

/-- The text of cells. -/
def cellsText (cells : List Cell) : Octets := cells.map (·.char)

/-- A text outside quotes, or within. -/
def cellsOf (quoted : Bool) (cs : Octets) : List Cell := cs.map fun char => { char, quoted }

/-! ## Elements -/

/-- A member of a set: the characters from one to another, or a class. -/
inductive SetMember
  | span (first last : Char)
  | ofClass (contains : Char → Bool)

/-- An element of a pattern. -/
inductive PatternElement
  | char (c : Char)
  | any
  | star
  | oneOf (negated : Bool) (members : List SetMember)

/-- The number of a character, of which those of eight bits come first. -/
def signedNumber (c : Char) : Int := if c.toNat < 128 then c.toNat else (c.toNat : Int) - 256

/-- The member contains a character. -/
def SetMember.contains (c : Char) : SetMember → Bool
  | .span first last => signedNumber first ≤ signedNumber c && signedNumber c ≤ signedNumber last
  | .ofClass p => p c

/-- Classes of characters by their names. -/
def characterClasses : List (String × (Char → Bool)) :=
  let isGraph (c : Char) : Bool := '!' ≤ c && c ≤ '~'
  [("alnum", Char.isAlphanum), ("alpha", Char.isAlpha), ("blank", fun c => c == ' ' || c == '\t'),
    ("cntrl", fun c => c < ' ' || c == '\x7f'), ("digit", Char.isDigit), ("graph", isGraph),
    ("lower", Char.isLower), ("print", fun c => c == ' ' || isGraph c),
    ("punct", fun c => isGraph c && !c.isAlphanum), ("space", fun c => c == ' ' || ('\t' ≤ c && c ≤ '\r')),
    ("upper", Char.isUpper), ("xdigit", fun c => c.isDigit || ('a' ≤ c && c ≤ 'f') || ('A' ≤ c && c ≤ 'F'))]

/-- The class whose name, with its signs, begins here; and what follows it. -/
def classAt? (cells : List Cell) : Option ((Char → Bool) × List Cell) :=
  characterClasses.findSome? fun (name, p) =>
    let written := ':' :: name.toList ++ [':', ']']
    if cellsText (cells.take written.length) = written then some (p, cells.drop written.length) else none

/-- Cells in which a backslash has been taken off what it quotes. -/
def unescape : List Cell → List Cell
  | [] => []
  | [c] => if c.char = '\\' then [{ c with quoted := true }] else [c]
  | c :: d :: rest =>
    if c.char = '\\' && !c.quoted then { d with quoted := true } :: unescape rest else c :: unescape (d :: rest)

/-- The members of a set up to its end, and what follows it. Right at its start a closing bracket is a member. -/
def setMembers : Nat → Bool → List Cell → List SetMember → Option (List SetMember × List Cell)
  | 0, _, _, _ => none
  | _, _, [], _ => none
  | fuel + 1, isFirst, c :: rest, seen =>
    if c.char = ']' && !c.quoted && !isFirst then some (seen.reverse, rest)
    else
      match if c.char = '[' && !c.quoted then classAt? rest else none with
      | some (p, rest) => setMembers fuel false rest (.ofClass p :: seen)
      | none =>
        match rest with
        | dash :: last :: more =>
          if dash.char = '-' && !dash.quoted && (last.char ≠ ']' || last.quoted) then
            setMembers fuel false more (.span c.char last.char :: seen)
          else setMembers fuel false rest (.span c.char c.char :: seen)
        | _ => setMembers fuel false rest (.span c.char c.char :: seen)

/-- The set that begins after an opening bracket, and what follows it. -/
def setAt? (cells : List Cell) : Option (PatternElement × List Cell) :=
  let negated := cells.head?.any fun c => c.char == '!' && !c.quoted
  let body := if negated then cells.drop 1 else cells
  (setMembers (body.length + 1) true body []).map fun (members, rest) => (.oneOf negated members, rest)

/-- The pattern of cells without backslashes; `fuel` bounds its length. -/
def elementsOf : Nat → List Cell → List PatternElement
  | 0, _ => []
  | _, [] => []
  | fuel + 1, c :: rest =>
    if c.quoted then .char c.char :: elementsOf fuel rest
    else if c.char = '*' then .star :: elementsOf fuel rest
    else if c.char = '?' then .any :: elementsOf fuel rest
    else if c.char = '[' then
      match setAt? rest with
      | some (element, left) => element :: elementsOf fuel left
      | none => .char '[' :: elementsOf fuel rest
    else .char c.char :: elementsOf fuel rest

/-- The pattern of cells. -/
def patternOf (cells : List Cell) : List PatternElement := elementsOf (cells.length + 1) (unescape cells)

/-! ## Matching -/

/-- The text matches the pattern. -/
def patternMatches : List PatternElement → Octets → Bool
  | [], cs => cs.isEmpty
  | .star :: rest, cs =>
    patternMatches rest cs ||
      match cs with
      | [] => false
      | _ :: more => patternMatches (.star :: rest) more
  | .char d :: rest, c :: cs => c == d && patternMatches rest cs
  | .any :: rest, _ :: cs => patternMatches rest cs
  | .oneOf negated members :: rest, c :: cs => (members.any (·.contains c) != negated) && patternMatches rest cs
  | _ :: _, [] => false
termination_by pattern cs => (pattern.length, cs.length)

/-- Cut off a beginning that matches, the longest or the shortest. -/
def cutFront (longest : Bool) (pattern : List PatternElement) (cs : Octets) : Octets :=
  let counts := List.range (cs.length + 1)
  match (if longest then counts.reverse else counts).find? fun n => patternMatches pattern (cs.take n) with
  | some n => cs.drop n
  | none => cs

/-- Cut off an end that matches, the longest or the shortest. -/
def cutBack (longest : Bool) (pattern : List PatternElement) (cs : Octets) : Octets :=
  let counts := List.range (cs.length + 1)
  match (if longest then counts else counts.reverse).find? fun n => patternMatches pattern (cs.drop n) with
  | some n => cs.take n
  | none => cs

/-! ## Names of files -/

/-- The order of octets. -/
def octetsLe : Octets → Octets → Bool
  | [], _ => true
  | _ :: _, [] => false
  | a :: as, b :: bs => a < b || (a == b && octetsLe as bs)

/-- The word holds a sign of a pattern, be it quoted or not. -/
def hasSigns (cells : List Cell) : Bool := cells.any fun c => "*?[".toList.contains c.char

/-- Cells between slashes. -/
def splitCells : List Cell → List (List Cell)
  | [] => [[]]
  | c :: rest =>
    if c.char = '/' then [] :: splitCells rest
    else
      match splitCells rest with
      | [] => [[c]]
      | s :: more => (c :: s) :: more

/-- Brackets that begin here have an end. -/
def bracketCloses : List Cell → Bool
  | [] => false
  | c :: rest =>
    let rest := if c.char = '!' && !c.quoted then rest else c :: rest
    (rest.drop 1).any fun c => c.char == ']' && !c.quoted

/-- A segment of a path stands for several names. -/
def isPattern : List Cell → Bool
  | [] => false
  | c :: rest =>
    (!c.quoted && (c.char = '*' || c.char = '?' || (c.char = '[' && bracketCloses rest))) || isPattern rest

end Diagnostics.Sandbox
