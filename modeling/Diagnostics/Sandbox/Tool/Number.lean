import Diagnostics.Sandbox.Format
import Diagnostics.Sandbox.Tool.Basic

/-!
# Numbers in arguments

Whole numbers between bounds, and sizes with units.
-/

namespace Diagnostics.Sandbox

/-- Units that counts may have. -/
def countUnits : List (String × Nat) :=
  [("", 1), ("b", 512), ("kB", 1000), ("K", 1024), ("k", 1024), ("KiB", 1024), ("MB", 1000000), ("M", 1048576),
    ("m", 1048576), ("MiB", 1048576), ("GB", 1000000000), ("G", 1073741824), ("GiB", 1073741824)]

/-- Digits with a unit. -/
def countOf? (cs : Octets) : Option Nat :=
  let digits := cs.takeWhile Char.isDigit
  if digits.isEmpty then none
  else
    ((countUnits.find? fun (unit, _) => unit.toList = cs.drop digits.length).map (·.2)).map
      ((takeNumeral 10 0 digits).1 * ·)

namespace Work

/-- Numbers beyond this are too large for what they are wanted for, and others are just out of range. -/
def largeNumber : Nat := 1073741823

/-- A number that is not between its bounds. -/
def outOfRange (what : String) (cs : Octets) (n : Int) : Work α :=
  fail (what.toList ++ ": ".toList ++ quoteWord cs ++ (if n.natAbs > largeNumber then
    ": Value too large for defined data type" else ": Numerical result out of range").toList)

/-- A whole number between bounds. -/
def numberBetween (what : String) (least most : Int) (cs : Octets) : Work Int := do
  match takeSigned (some 10) cs with
  | some (n, []) => if least ≤ n && n ≤ most then pure n else outOfRange what cs n
  | _ => fail (what.toList ++ ": ".toList ++ quoteWord cs)

/-- A whole number between bounds that are not less than zero. -/
def countBetween (what : String) (least most : Nat) (cs : Octets) : Work Nat := do
  match takeSigned (some 10) cs with
  | some (n, []) =>
    if n < 0 || cs.contains '-' then fail (what.toList ++ ": ".toList ++ quoteWord cs)
    else if least ≤ n && n ≤ most then pure n.toNat
    else outOfRange what cs n
  | _ => fail (what.toList ++ ": ".toList ++ quoteWord cs)

/-- The greatest number of anything. -/
def greatestCount : Nat := 18446744073709551615

end Work

end Diagnostics.Sandbox
