import Diagnostics.Regex.Syntax
import Diagnostics.Regex.Token.Blank

/-!
# Counts

The braces that say how often the element before them is repeated: `{n}`, `{n,}` and `{n,m}`. White space
may stand around the numbers in any pattern. A lower bound must be written.
-/

namespace Diagnostics.Regex

/-- The digits 0 to 9. -/
def isDecimal (c : Char) : Bool := '0' ≤ c && c ≤ '9'

/-- The number written by decimal digits. -/
def decimalNumber (digits : List Char) : Nat :=
  digits.foldl (fun n c => n * 10 + (c.toNat - '0'.toNat)) 0

/-- The largest count. -/
def countLimit : Nat := 4294967295

/-- A number with white space around it; no digits give no number. -/
def readNumber (verbose : Bool) (cs : List Char) : Except SyntaxError (Option Nat × List Char) :=
  let (digits, left) := gather isDecimal verbose false (cs.dropWhile Unicode.isSpace)
  if digits.isEmpty then .ok (none, left)
  else if decimalNumber digits ≤ countLimit then
    .ok (some (decimalNumber digits), left.dropWhile Unicode.isSpace)
  else .error .countTooLarge

/-- How often an element is repeated. -/
structure Count where
  min : Nat
  max : Option Nat

/-- A number that must be there. -/
def Count.require : Option Nat → Except SyntaxError Nat
  | some n => .ok n
  | none => .error .countMissing

/-- The bounds between the braces, up to the closing brace. -/
def readBounds (verbose : Bool) (cs : List Char) : Except SyntaxError (Count × List Char) := do
  let (low, left) ← readNumber verbose cs
  match left with
  | [] => .error .unclosedCount
  | ',' :: rest =>
    match skipBlanks verbose rest with
    | [] => .error .unclosedCount
    | '\x7d' :: more => do
      let low ← Count.require low
      pure ({ min := low, max := none }, '\x7d' :: more)
    | more => do
      let low ← Count.require low
      let (high, left) ← readNumber verbose more
      let high ← Count.require high
      pure ({ min := low, max := some high }, left)
  | _ => do
    let n ← Count.require low
    pure ({ min := n, max := some n }, left)

/-- Read a count, the opening brace already taken. -/
def readCount (verbose : Bool) (cs : List Char) : Except SyntaxError (Count × List Char) :=
  match skipBlanks verbose cs with
  | [] => .error .unclosedCount
  | start => do
    let (count, left) ← readBounds verbose start
    match left with
    | '\x7d' :: rest =>
      if count.max.all (count.min ≤ ·) then .ok (count, rest) else .error .countsOutOfOrder
    | _ => .error .unclosedCount

end Diagnostics.Regex
