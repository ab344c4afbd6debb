import Diagnostics.Decimal
import Diagnostics.Sandbox.Shell.Sum

/-!
# Fractions

Numbers that need not be whole: how they are read, how they are rounded to so many binary digits, and how they are
written in digits.
-/

namespace Diagnostics.Sandbox

/-- A number as a fraction, or something that is no number; the flag tells that it is negative. -/
inductive Real
  | fraction (negative : Bool) (num den : Nat)
  | unbounded (negative : Bool)
  | undefined (negative : Bool)

/-! ## Rounding -/

/-- How exact numbers are: how many binary digits they have, and between which exponents the first digit stands. -/
structure Exactness where
  digits : Nat
  least : Int
  greatest : Int

namespace Exactness

/-- Numbers of double precision. -/
def double : Exactness := ⟨53, -1022, 1023⟩

/-- Numbers of extended precision. -/
def extended : Exactness := ⟨64, -16382, 16383⟩

end Exactness

/-- A fraction times a power of two. -/
def timesTwoTo (num den : Nat) (power : Int) : Nat × Nat :=
  if 0 ≤ power then (num * Nat.pow 2 power.toNat, den) else (num, den * Nat.pow 2 (-power).toNat)

/-- The exponent of the first binary digit of a fraction that is not zero. -/
def binaryExponent (num den : Nat) : Int :=
  let guess : Int := (Nat.log2 num : Int) - Nat.log2 den
  let (n, d) := timesTwoTo num den (-guess)
  if d ≤ n then guess else guess - 1

/-- The nearest number that is so exact, and whether it is in range: it is not too great, and not so small that digits
are lost. -/
def Real.rounded (x : Exactness) : Real → Real × Bool
  | .fraction negative num den =>
    if num = 0 then (.fraction negative 0 1, true)
    else
      let e := binaryExponent num den
      let last : Int := max e x.least - (x.digits - 1)
      let (n, d) := timesTwoTo num den (-last)
      let m := Decimal.roundHalfEven n d
      if x.greatest < (Nat.log2 m : Int) + last then (.unbounded negative, false)
      else
        let (n', d') := timesTwoTo m 1 last
        (.fraction negative n' d', x.least ≤ e || n % d == 0)
  | x => (x, true)

/-! ## Digits -/

/-- Digits with a point before the last `places` of them. -/
def pointed (point : Bool) (n places : Nat) : Octets :=
  let ds := Nat.toDigits 10 n
  let ds := List.replicate (places + 1 - ds.length) '0' ++ ds
  let whole := ds.take (ds.length - places)
  let rest := ds.drop (ds.length - places)
  if places = 0 then (if point then whole ++ ['.'] else whole) else whole ++ '.' :: rest

/-- The exponent of the first digit of a fraction, between bounds. -/
def leadingExponent (num den : Nat) : Int :=
  if num = 0 then 0
  else
    let guess : Int := ((Nat.toDigits 10 num).length : Int) - (Nat.toDigits 10 den).length
    let atLeast (e : Int) : Bool :=
      if 0 ≤ e then den * Nat.pow 10 e.toNat ≤ num else den ≤ num * Nat.pow 10 (-e).toNat
    if atLeast guess then guess else guess - 1

/-- A fraction with one digit before the point and `places` after it: the digits and the exponent. -/
def scientific (num den places : Nat) : Nat × Int :=
  let e := leadingExponent num den
  let shift : Int := places - e
  let n :=
    if 0 ≤ shift then Decimal.roundHalfEven (num * Nat.pow 10 shift.toNat) den
    else Decimal.roundHalfEven num (den * Nat.pow 10 (-shift).toNat)
  if n < Nat.pow 10 (places + 1) then (n, e) else (n / 10, e + 1)

/-- An exponent as it is written. -/
def exponentText (e : Int) : Octets :=
  let ds := Nat.toDigits 10 e.natAbs
  'e' :: (if e < 0 then '-' else '+') :: (if ds.length < 2 then '0' :: ds else ds)

/-- Digits without zeros at the end, and without a point there. -/
def trimZeros (cs : Octets) : Octets :=
  if cs.contains '.' then
    let cs := (cs.reverse.dropWhile (· == '0')).reverse
    if cs.getLast? = some '.' then cs.dropLast else cs
  else cs

/-- The digits of a number of some exactness in base sixteen, with its binary exponent; before the point stand as many
binary digits as the digits after it leave. -/
def hexadecimal (x : Exactness) (precision : Option Nat) (point : Bool) (num den : Nat) : Octets :=
  let lead := (x.digits - 1) % 4 + 1
  let places := (x.digits - lead) / 4
  let e : Int := if num = 0 then 0 else max (binaryExponent num den) x.least - (lead - 1)
  let (n, d) := timesTwoTo num den (4 * places - e)
  let shown := min (precision.getD places) places
  let m := Decimal.roundHalfEven n (d * Nat.pow 16 (places - shown))
  let isOver := Nat.pow 16 (shown + 1) ≤ m
  let (m, e) := if isOver then (m / 16, e + 4) else (m, e)
  let ds := Nat.toDigits 16 m
  let ds := List.replicate (shown + 1 - ds.length) '0' ++ ds
  let after := match precision with
    | some p => ds.drop 1 ++ List.replicate (p - shown) '0'
    | none => ((ds.drop 1).reverse.dropWhile (· == '0')).reverse
  let sign := if e < 0 then '-' else '+'
  ds.take 1 ++ (if point || !after.isEmpty then '.' :: after else []) ++ 'p' :: sign :: Nat.toDigits 10 e.natAbs

/-! ## Reading -/

/-- Digits of a base, with or without a point: the digits as one number, and how many of them stand after the
point. -/
def takePointed (base : Nat) (cs : Octets) : Option (Nat × Nat × Octets) :=
  let isDigit (c : Char) : Bool := (digitIn? base c).isSome
  let whole := cs.takeWhile isDigit
  let rest := cs.drop whole.length
  match rest with
  | '.' :: more =>
    let after := more.takeWhile isDigit
    if whole.isEmpty && after.isEmpty then none
    else some ((takeNumeral base 0 (whole ++ after)).1, after.length, more.drop after.length)
  | _ => if whole.isEmpty then none else some ((takeNumeral base 0 whole).1, 0, rest)

/-- An exponent after digits, which a letter begins. -/
def takeExponent (letter : Char) (cs : Octets) : Int × Octets :=
  match cs with
  | e :: rest =>
    if e.toLower = letter then
      let (negative, ds) := match rest with
        | '-' :: ds => (true, ds)
        | '+' :: ds => (false, ds)
        | ds => (false, ds)
      if (ds.head?.any Char.isDigit) then
        let (n, left) := takeNumeral 10 0 ds
        (if negative then -(n : Int) else n, left)
      else (0, cs)
    else (0, cs)
  | [] => (0, cs)

/-- So large exponents are as good as larger ones. -/
def exponentLimit : Int := 20000

/-- A number at the beginning of a text, and what follows it. -/
def takeReal (cs : Octets) : Option (Real × Octets) :=
  let cs := cs.dropWhile isNumberBlank
  let (negative, cs) := match cs with
    | '-' :: rest => (true, rest)
    | '+' :: rest => (false, rest)
    | cs => (false, cs)
  let isWord (w : String) : Bool := (cs.take w.length).map Char.toLower = w.toList
  let bounded (e : Int) : Int := max (-exponentLimit) (min exponentLimit e)
  let decimal : Option (Real × Octets) := (takePointed 10 cs).map fun (n, places, rest) =>
    let (e, rest) := takeExponent 'e' rest
    let e := bounded (e - places)
    (if 0 ≤ e then .fraction negative (n * Nat.pow 10 e.toNat) 1
      else .fraction negative n (Nat.pow 10 (-e).toNat), rest)
  if isWord "infinity" then some (.unbounded negative, cs.drop 8)
  else if isWord "inf" then some (.unbounded negative, cs.drop 3)
  else if isWord "nan" then some (.undefined negative, cs.drop 3)
  else if isWord "0x" then
    match takePointed 16 (cs.drop 2) with
    | some (n, places, rest) =>
      let (e, rest) := takeExponent 'p' rest
      let (n, d) := timesTwoTo n 1 (bounded (e - 4 * places))
      some (.fraction negative n d, rest)
    | none => decimal
  else decimal

end Diagnostics.Sandbox
