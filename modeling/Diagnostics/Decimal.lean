/-!
# Decimal text of binary numbers

A finite binary number is a whole number times a power of two, and its decimal text is found with exact
arithmetic on that pair. The shortest text has the fewest digits among the decimals that lie nearer to the
number than to any other; a text with fixed places is the number rounded to that many places, a half to the
even neighbour.
-/

namespace Diagnostics

/-- A finite binary number: `mantissa * 2 ^ exponent`, with a sign. -/
structure Binary where
  negative : Bool
  mantissa : Nat
  exponent : Int

namespace Binary

/-- The number of explicit bits of the mantissa. -/
def fractionBits : Nat := 52

/-- The least exponent. -/
def leastExponent : Int := -1074

/-- Take a number apart; infinities and NaN have no parts. -/
def ofFloat? (x : Float) : Option Binary :=
  let bits := x.toBits.toNat
  let fraction := bits % Nat.pow 2 fractionBits
  let scale := bits / Nat.pow 2 fractionBits % 2048
  let negative := bits / Nat.pow 2 63 == 1
  if scale = 2047 then none
  else if scale = 0 then some ⟨negative, fraction, leastExponent⟩
  else some ⟨negative, fraction + Nat.pow 2 fractionBits, (scale : Int) - 1075⟩

/-- The magnitude as a fraction. -/
def fraction (b : Binary) : Nat × Nat :=
  if 0 ≤ b.exponent then (b.mantissa * Nat.pow 2 b.exponent.toNat, 1)
  else (b.mantissa, Nat.pow 2 (-b.exponent).toNat)

end Binary

namespace Decimal

/-- The quotient rounded to the nearest whole number, a half to the even one. -/
def roundHalfEven (num den : Nat) : Nat :=
  let q := num / den
  let r := num % den
  if 2 * r < den then q
  else if den < 2 * r then q + 1
  else if q % 2 = 0 then q
  else q + 1

/-- A whole number with a decimal point before its last `places` digits. -/
def withPoint (n places : Nat) : String :=
  if places = 0 then toString n
  else
    let rest := toString (n % Nat.pow 10 places)
    let zeros := String.ofList (List.replicate (places - rest.length) '0')
    toString (n / Nat.pow 10 places) ++ "." ++ zeros ++ rest

/-- The text of a number that has no parts. -/
def unboundedText (x : Float) : String :=
  if x.isNaN then "NaN" else if x < 0 then "-inf" else "inf"

/-- The number with a fixed count of decimal places. -/
def fixed (places : Nat) (x : Float) : String :=
  match Binary.ofFloat? x with
  | none => unboundedText x
  | some b =>
    let (num, den) := b.fraction
    (if b.negative then "-" else "") ++ withPoint (roundHalfEven (num * Nat.pow 10 places) den) places

/-! ## The shortest text -/

/-- Digits and the power of ten of the last one. -/
structure Scaled where
  digits : Nat
  power : Int

/-- `10 ^ power` as a fraction. -/
def tenTo (power : Int) : Nat × Nat :=
  if 0 ≤ power then (Nat.pow 10 power.toNat, 1) else (1, Nat.pow 10 (-power).toNat)

/-- The bounds of the numbers that round to `b`, as whole numbers over a common denominator, and the number
itself over the same. The gap below a power of two is half as wide as the one above. -/
def bounds (b : Binary) : Nat × Nat × Nat × Nat :=
  let (num, den) := b.fraction
  let (unit, _) := ({ b with mantissa := 1 } : Binary).fraction
  let narrow := b.mantissa = Nat.pow 2 Binary.fractionBits ∧ Binary.leastExponent < b.exponent
  (4 * num - (if narrow then unit else 2 * unit), 4 * num, 4 * num + 2 * unit, 4 * den)

/-- The power of ten of the first digit of a positive fraction. -/
def leadingPower (num den : Nat) : Int :=
  if den ≤ num then ((toString (num / den)).length : Int) - 1
  else
    let places := (toString (den / num)).length
    if den ≤ num * Nat.pow 10 (places - 1) then -((places : Int) - 1) else -(places : Int)

/-- A decimal with the given power that rounds to `b`, the one nearer to it if there are two. -/
def candidate? (b : Binary) (power : Int) : Option Scaled :=
  let (low, mid, high, den) := bounds b
  let (up, down) := tenTo power
  let inside (d : Nat) : Bool :=
    if b.mantissa % 2 = 0 then low * down ≤ d * up * den && d * up * den ≤ high * down
    else low * down < d * up * den && d * up * den < high * down
  let below := mid * down / (den * up)
  let remainder := mid * down % (den * up)
  let nearerBelow := 2 * remainder ≤ den * up
  match 0 < below && inside below, inside (below + 1) with
  | true, true => some ⟨if nearerBelow then below else below + 1, power⟩
  | true, false => some ⟨below, power⟩
  | false, true => some ⟨below + 1, power⟩
  | false, false => none

/-- The shortest digits of a positive number, tried from one digit up; `count` more may be tried. -/
def shortestFrom (b : Binary) (power : Int) : Nat → Scaled
  | 0 => (candidate? b power).getD ⟨b.fraction.1, 0⟩
  | count + 1 =>
    match candidate? b power with
    | some s => s
    | none => shortestFrom b (power - 1) count

/-- The shortest digits of a number; zero has the digit zero. -/
def shortest (b : Binary) : Scaled :=
  if b.mantissa = 0 then ⟨0, 0⟩
  else
    let (num, den) := b.fraction
    shortestFrom b (leadingPower num den) 17

/-- Digits written out without an exponent. -/
def Scaled.text (s : Scaled) : String :=
  if 0 ≤ s.power then toString (s.digits * Nat.pow 10 s.power.toNat)
  else withPoint s.digits (-s.power).toNat

/-- The shortest text, never with an exponent; whole numbers have no point. -/
def plain (x : Float) : String :=
  match Binary.ofFloat? x with
  | none => unboundedText x
  | some b => (if b.negative then "-" else "") ++ (shortest b).text

/-- The digits with an exponent, the point after the first digit. -/
def Scaled.exponentText (s : Scaled) : String :=
  let digits := toString s.digits
  let tail := String.ofList (digits.toList.drop 1)
  let lead := String.ofList (digits.toList.take 1)
  lead ++ (if tail.isEmpty then "" else "." ++ tail) ++ "e" ++ toString (s.power + (digits.length - 1 : Nat))

/-- The shortest text that shows at once that it is no whole number: a point is always there, very large and
very small numbers have an exponent. -/
def marked (x : Float) : String :=
  match Binary.ofFloat? x with
  | none => unboundedText x
  | some b =>
    let s := shortest b
    let sign := if b.negative then "-" else ""
    let size := x.abs
    if 1e16 ≤ size ∨ (size != 0 ∧ size < 1e-4) then sign ++ s.exponentText
    else if 0 ≤ s.power then sign ++ s.text ++ ".0"
    else sign ++ s.text

end Decimal

end Diagnostics
