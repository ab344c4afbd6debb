/-!
# Unsigned numerals

A numeral is a run of the digits 0 to 9, at least one, with at most one plus sign in front. Zeros may lead.
A numeral is read only if its value does not exceed the limit of the place that it is meant for.
-/

namespace Diagnostics.Numeral

/-- The largest value of 8 bits. -/
def limit8 : Nat := 255

/-- The largest value of 32 bits. -/
def limit32 : Nat := 4294967295

/-- The largest value of 64 bits. -/
def limit64 : Nat := 18446744073709551615

/-- The value of a run of digits. -/
def digitsValue (ds : List Char) : Nat := ds.foldl (fun n c => n * 10 + (c.toNat - '0'.toNat)) 0

/-- Read a run of digits, which must not be empty. -/
def readDigits? (limit : Nat) (ds : List Char) : Option Nat :=
  if ds.isEmpty then none
  else if ds.all Char.isDigit then
    if digitsValue ds ≤ limit then some (digitsValue ds) else none
  else none

/-- Read a numeral. -/
def read? (limit : Nat) (text : String) : Option Nat :=
  match text.toList with
  | '+' :: ds => readDigits? limit ds
  | ds => readDigits? limit ds

/-- Read a numeral that may also be negative; the bounds are those of 64 bits with a sign. -/
def readSigned? (text : String) : Option Int :=
  match text.toList with
  | '-' :: ds => (readDigits? 9223372036854775808 ds).map fun n => -(n : Int)
  | '+' :: ds => (readDigits? 9223372036854775807 ds).map Int.ofNat
  | ds => (readDigits? 9223372036854775807 ds).map Int.ofNat

end Diagnostics.Numeral
