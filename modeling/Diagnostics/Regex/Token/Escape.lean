import Diagnostics.Regex.Property
import Diagnostics.Regex.Token.Blank

/-!
# Escapes

What follows a backslash: a character that would otherwise mean something else, a control character by
its letter, a character by its number, a one-letter class, a class by the name of a property, or an assertion.
-/

namespace Diagnostics.Regex

/-- What an escape stands for. -/
inductive Escape
  | char (c : Char)
  | octet (c : Char)
  | anchor (a : Anchor)
  | letter (k : LetterClass) (negated : Bool)
  | property (name : PropertyName) (negated : Bool)

/-- Characters with a meaning of their own in some pattern. -/
def isMeta (c : Char) : Bool :=
  ['\\', '.', '+', '*', '?', '(', ')', '|', '[', ']', '\x7b', '\x7d', '^', '$', '#', '&', '-', '~'].contains c

theorem isMeta_backslash : isMeta '\\' = true := rfl

/-- No sign is a character that is none. -/
theorem ne_of_meta {c d : Char} (hc : isMeta c = true) (hd : isMeta d = false) : c ≠ d := by
  intro h
  rw [h, hd] at hc
  cases hc

/-- A backslash before this character leaves it as it is: any ASCII character that is neither a letter nor
a digit nor an angle bracket. -/
def isEscapable (c : Char) : Bool :=
  isMeta c || (c.toNat < 128 && !c.isAlphanum && c != '<' && c != '>')

/-- The value of a hexadecimal digit. -/
def hexValue? (c : Char) : Option Nat :=
  if '0' ≤ c ∧ c ≤ '9' then some (c.toNat - '0'.toNat)
  else if 'a' ≤ c ∧ c ≤ 'f' then some (c.toNat - 'a'.toNat + 10)
  else if 'A' ≤ c ∧ c ≤ 'F' then some (c.toNat - 'A'.toNat + 10)
  else none

/-- The number written by hexadecimal digits. -/
def hexNumber (digits : List Char) : Nat :=
  digits.foldl (fun n c => n * 16 + (hexValue? c).getD 0) 0

/-- The character with the given number; surrogates and numbers past the last plane have none. -/
def scalar? (n : Nat) : Option Char :=
  if h : n.isValidChar then some (Char.ofNatAux n h) else none

/-- The character written by hexadecimal digits. -/
def hexChar (digits : List Char) : Except SyntaxError Char :=
  match scalar? (hexNumber digits) with
  | some c => .ok c
  | none => .error .notAScalar

/-- Exactly `n` hexadecimal digits. -/
def hexDigits (verbose : Bool) : Nat → List Char → Except SyntaxError (List Char × List Char)
  | 0, cs => .ok ([], cs)
  | _ + 1, [] => .error .unfinishedEscape
  | n + 1, c :: rest =>
    if (hexValue? c).isSome then do
      let (digits, left) ← hexDigits verbose n (skipBlanks verbose rest)
      pure (c :: digits, left)
    else .error .hexDigitExpected

/-- A character that is written by so many digits. -/
def Escape.ofDigits (width : Nat) (c : Char) : Escape := if width = 2 ∧ 128 ≤ c.toNat then octet c else char c

/-- A character by its number: a fixed count of digits, or any count in braces. -/
def hexEscape (verbose : Bool) (width : Nat) (cs : List Char) : Except SyntaxError (Escape × List Char) :=
  match skipBlanks verbose cs with
  | [] => .error .unfinishedEscape
  | '\x7b' :: rest =>
    match gather (fun c => (hexValue? c).isSome) verbose false rest with
    | (_, []) => .error .unfinishedEscape
    | ([], '\x7d' :: _) => .error .hexDigitExpected
    | (digits, '\x7d' :: left) => do pure (.char (← hexChar digits), skipBlanks verbose left)
    | _ => .error .hexDigitExpected
  | start => do
    let (digits, left) ← hexDigits verbose width start
    pure (.ofDigits width (← hexChar digits), left)

/-- The place named in braces after `\b`. -/
def namedBoundary? : String → Option WordPlace
  | "start" => some .start
  | "end" => some .stop
  | "start-half" => some .startHalf
  | "end-half" => some .stopHalf
  | _ => none

/-- A word boundary. Braces that begin with a letter or a hyphen name a kind of boundary, any other
braces are a count. -/
def boundaryEscape (verbose : Bool) (cs : List Char) : Except SyntaxError (Escape × List Char) :=
  let plain := (Escape.anchor (.word .boundary), cs)
  let isNameChar := fun c : Char => c.isAlpha || c == '-'
  match cs with
  | '\x7b' :: rest =>
    match skipBlanks verbose rest with
    | [] => .error .unclosedCount
    | c :: more =>
      if isNameChar c then
        match gather isNameChar verbose false (c :: more) with
        | (name, '\x7d' :: left) =>
          match namedBoundary? (String.ofList name) with
          | some place => .ok (.anchor (.word place), left)
          | none => .error .unknownBoundary
        | _ => .error .unknownBoundary
      else .ok plain
  | _ => .ok plain

/-- A class by the name of a property: a letter, or a name in braces. -/
def propertyEscape (verbose negated : Bool) (cs : List Char) : Except SyntaxError (Escape × List Char) :=
  match skipBlanks verbose cs with
  | [] => .error .unfinishedEscape
  | '\\' :: _ => .error .badProperty
  | '\x7b' :: rest =>
    let isName := fun c : Char => c != '\x7d' && !(verbose && (Unicode.isSpace c || c == '#'))
    match gather isName verbose false rest with
    | (text, '\x7d' :: left) =>
      let (name, others) := PropertyName.ofText text
      .ok (.property name (negated != others), left)
    | _ => .error .unfinishedEscape
  | c :: rest => .ok (.property (.alone (String.singleton c)) negated, skipBlanks verbose rest)

/-- Read what follows a backslash. -/
def readEscape (verbose : Bool) : List Char → Except SyntaxError (Escape × List Char)
  | [] => .error .unfinishedEscape
  | c :: rest =>
    if isEscapable c then .ok (.char c, rest)
    else match c with
      | 'x' => hexEscape verbose 2 rest
      | 'u' => hexEscape verbose 4 rest
      | 'U' => hexEscape verbose 8 rest
      | 'd' => .ok (.letter .digit false, rest)
      | 'D' => .ok (.letter .digit true, rest)
      | 's' => .ok (.letter .space false, rest)
      | 'S' => .ok (.letter .space true, rest)
      | 'w' => .ok (.letter .word false, rest)
      | 'W' => .ok (.letter .word true, rest)
      | 'a' => .ok (.char '\x07', rest)
      | 'f' => .ok (.char '\x0c', rest)
      | 't' => .ok (.char '\t', rest)
      | 'n' => .ok (.char '\n', rest)
      | 'r' => .ok (.char '\r', rest)
      | 'v' => .ok (.char '\x0b', rest)
      | 'A' => .ok (.anchor .textStart, rest)
      | 'z' => .ok (.anchor .textEnd, rest)
      | 'b' => boundaryEscape verbose rest
      | 'B' => .ok (.anchor (.word .notBoundary), rest)
      | '<' => .ok (.anchor (.word .start), rest)
      | '>' => .ok (.anchor (.word .stop), rest)
      | 'p' => propertyEscape verbose false rest
      | 'P' => propertyEscape verbose true rest
      | _ => .error (if '0' ≤ c ∧ c ≤ '9' then .backReference else .unknownEscape c)

end Diagnostics.Regex
