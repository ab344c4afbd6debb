import Diagnostics.Toml.Quoted

/-!
# Numbers

A number is a run of letters, digits and signs, judged as a whole. Low lines may stand between digits.
Whole numbers have 64 bits with a sign; those in base 16, 8 and 2 have a mark in front and no sign. Other
numbers are rounded to the nearest binary number and kept as its bits, so that signed zeros and signed NaN
stay what they are; a positive number that is too large is refused, a negative one is infinite.
-/

namespace Diagnostics.Toml

/-- The largest whole number. -/
def wholeLimit : Nat := 9223372036854775807

/-- The digits of a run in which low lines may stand between digits. -/
def digitRun? (isDigit : Char → Bool) : List Char → Option (List Char)
  | [] => none
  | [c] => if isDigit c then some [c] else none
  | c :: '_' :: rest => if isDigit c then (digitRun? isDigit rest).map (c :: ·) else none
  | c :: rest => if isDigit c then (digitRun? isDigit rest).map (c :: ·) else none

/-- The value of digits in a base. -/
def valueIn (base : Nat) (digits : List Char) : Nat :=
  digits.foldl (fun n c => n * base + (hexDigit? c).getD 0) 0

/-- The digits of a decimal run; a zero leads only if it is alone. -/
def decimalRun? (cs : List Char) : Option (List Char) :=
  match digitRun? Char.isDigit cs with
  | some ('0' :: _ :: _) => none
  | run => run

/-- Take a sign off: whether it is a minus, and the rest. -/
def takeSign : List Char → Bool × List Char
  | '-' :: rest => (true, rest)
  | '+' :: rest => (false, rest)
  | cs => (false, cs)

/-! ## Whole numbers -/

/-- A whole number without regard to its size. -/
def whole? (token : List Char) : Option Int :=
  match token with
  | '0' :: 'x' :: rest => (digitRun? (fun c => (hexDigit? c).isSome) rest).map fun ds => (valueIn 16 ds : Int)
  | '0' :: 'o' :: rest => (digitRun? (fun c => '0' ≤ c && c ≤ '7') rest).map fun ds => (valueIn 8 ds : Int)
  | '0' :: 'b' :: rest => (digitRun? (fun c => c == '0' || c == '1') rest).map fun ds => (valueIn 2 ds : Int)
  | _ =>
    let (negative, rest) := takeSign token
    (decimalRun? rest).map fun ds => if negative then -(valueIn 10 ds : Int) else valueIn 10 ds

/-- A whole number is among those of 64 bits. -/
def fitsWhole (n : Int) : Bool := -(wholeLimit : Int) - 1 ≤ n && n ≤ wholeLimit

/-! ## Other numbers -/

/-- A decimal number: `digits * 10 ^ power`, with a sign. -/
structure DecimalNumber where
  negative : Bool
  digits : Nat
  power : Int

/-- Beyond this many places before or after the point every number is infinite or zero. -/
def placeLimit : Int := 400

/-- The bits of the nearest binary number. -/
def DecimalNumber.bits (d : DecimalNumber) : UInt64 :=
  let places := ((toString d.digits).length : Int) + d.power
  let size : Float :=
    if d.digits = 0 ∨ places < -placeLimit then 0.0
    else if placeLimit < places then 1.0 / 0.0
    else if 0 ≤ d.power then Float.ofScientific d.digits false d.power.toNat
    else Float.ofScientific d.digits true (-d.power).toNat
  (if d.negative then -size else size).toBits

/-- The bits of positive infinity. -/
def infinityBits : UInt64 := 0x7ff0000000000000

/-- The bits of a NaN. -/
def nanBits : UInt64 := 0x7ff8000000000000

/-- The bits of the sign. -/
def signBits (negative : Bool) : UInt64 := if negative then 0x8000000000000000 else 0

/-- The exponent of a number: `e` or `E` and a run of digits with a sign, or nothing. -/
def exponent? : List Char → Option Int
  | [] => some 0
  | e :: rest =>
    if e = 'e' ∨ e = 'E' then
      let (negative, rest) := takeSign rest
      (digitRun? Char.isDigit rest).map fun ds => if negative then -(valueIn 10 ds : Int) else valueIn 10 ds
    else none

/-- The decimals after the point, if there is a point. -/
def decimals? : List Char → Option (List Char)
  | [] => some []
  | '.' :: rest => digitRun? Char.isDigit rest
  | _ => none

/-- The character begins an exponent. -/
def isExponentMark (c : Char) : Bool := c == 'e' || c == 'E'

/-- A number with decimals, an exponent or both. -/
def decimal? (token : List Char) : Option DecimalNumber := do
  let (negative, rest) := takeSign token
  let mantissa := rest.takeWhile (!isExponentMark ·)
  let lead ← decimalRun? (mantissa.takeWhile (· != '.'))
  let decimals ← decimals? (mantissa.dropWhile (· != '.'))
  let exponent ← exponent? (rest.dropWhile (!isExponentMark ·))
  if rest.any fun c => c == '.' || isExponentMark c then
    some ⟨negative, valueIn 10 (lead ++ decimals), exponent - decimals.length⟩
  else none

/-- The bits of a number that has a word. -/
def wordBits? (token : List Char) : Option UInt64 :=
  let (negative, rest) := takeSign token
  if rest = "inf".toList then some (infinityBits ||| signBits negative)
  else if rest = "nan".toList then some (nanBits ||| signBits negative)
  else none

end Diagnostics.Toml
