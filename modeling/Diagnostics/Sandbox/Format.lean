import Diagnostics.Sandbox.Fraction

/-!
# Escapes and formats of printed text

Escapes in a text stand for single octets. A format holds slots for arguments, each of which says how wide and in
which form its argument is written.
-/

namespace Diagnostics.Sandbox

/-! ## Escapes -/

/-- The octet with a number, which is cut down to eight bits. -/
def octet (n : Nat) : Char := Char.ofNat (n % 256)

/-- The sign of an escape that has a letter. -/
def letterEscape? : Char → Option Char
  | 'a' => some '\x07'
  | 'b' => some '\x08'
  | 'e' => some '\x1b'
  | 'f' => some '\x0c'
  | 'n' => some '\n'
  | 'r' => some '\r'
  | 't' => some '\t'
  | 'v' => some '\x0b'
  | '\\' => some '\\'
  | _ => none

/-- An octal digit. -/
def isOctal (c : Char) : Bool := '0' ≤ c && c ≤ '7'

/-- The octet of up to `count` digits of a base, and what follows them. -/
def takeOctet (base count : Nat) (cs : Octets) : Char × Octets :=
  let digits := (cs.take count).takeWhile fun c => (digitIn? base c).isSome
  (octet (takeNumeral base 0 digits).1, cs.drop digits.length)

/-- What an escape in a format means, and what follows it: octal digits stand right after the backslash. -/
def formatEscape (cs : Octets) : Octets × Octets :=
  match cs with
  | [] => (['\\'], [])
  | c :: rest =>
    match letterEscape? c with
    | some d => ([d], rest)
    | none =>
      if isOctal c then
        let (d, rest) := takeOctet 8 3 cs
        ([d], rest)
      else (['\\'], cs)

/-- What an escape in an argument means, and what follows it: octal digits may follow a zero, and `c` ends all
printing. -/
def argumentEscape (cs : Octets) : Option Octets × Octets :=
  match cs with
  | 'c' :: rest => (none, rest)
  | '0' :: d :: rest =>
    if isOctal d then
      let (c, rest) := takeOctet 8 3 (d :: rest)
      (some [c], rest)
    else (some ['\x00'], d :: rest)
  | cs =>
    let (text, rest) := formatEscape cs
    (some text, rest)

/-- An argument with its escapes replaced, and whether printing ends in it. -/
def unescapeArgument : Nat → Octets → List Octets → Octets × Bool
  | 0, _, seen => (seen.reverse.flatten, false)
  | _, [], seen => (seen.reverse.flatten, false)
  | fuel + 1, c :: rest, seen =>
    if c = '\\' then
      match argumentEscape rest with
      | (none, _) => (seen.reverse.flatten, true)
      | (some text, rest) => unescapeArgument fuel rest (text :: seen)
    else
      let plain := (c :: rest).takeWhile (· != '\\')
      unescapeArgument fuel ((c :: rest).drop plain.length) (plain :: seen)

/-- An argument with its escapes replaced, and whether printing ends in it. -/
def escapedArgument (cs : Octets) : Octets × Bool := unescapeArgument (cs.length + 1) cs []

/-! ## Slots -/

/-- A slot for an argument. -/
structure Slot where
  left : Bool := false
  zeros : Bool := false
  plus : Bool := false
  space : Bool := false
  alternate : Bool := false
  width : Nat := 0
  precision : Option Nat := none
  letter : Char

/-- Read the flags of a slot. -/
def Slot.flags (d : Slot) : Octets → Slot × Octets
  | '-' :: rest => flags { d with left := true } rest
  | '0' :: rest => flags { d with zeros := true } rest
  | '+' :: rest => flags { d with plus := true } rest
  | ' ' :: rest => flags { d with space := true } rest
  | '#' :: rest => flags { d with alternate := true } rest
  | cs => (d, cs)

/-- Fill a text up to the width of a slot. -/
def Slot.pad (d : Slot) (cs : Octets) : Octets :=
  let fill := List.replicate (d.width - cs.length) ' '
  if d.left then cs ++ fill else fill ++ cs

/-- Fill the digits of a number, with zeros after its sign if the slot has them. -/
def Slot.padNumber (d : Slot) (zeros : Bool) (sign digits : Octets) : Octets :=
  if d.left || !zeros then d.pad (sign ++ digits)
  else sign ++ List.replicate (d.width - sign.length - digits.length) '0' ++ digits

/-- The sign of a number in a slot. -/
def Slot.sign (d : Slot) (negative : Bool) : Octets :=
  if negative then ['-'] else if d.plus then ['+'] else if d.space then [' '] else []

/-- Text in a slot, which the precision cuts. -/
def Slot.text (d : Slot) (cs : Octets) : Octets :=
  d.pad (match d.precision with
    | some n => cs.take n
    | none => cs)

/-- Digits with as many zeros before them as the precision wants. -/
def Slot.digits (d : Slot) (base n : Nat) : Octets :=
  let ds := if n = 0 && d.precision = some 0 then [] else Nat.toDigits base n
  List.replicate (d.precision.getD 1 - ds.length) '0' ++ ds

/-- A whole number with a sign in a slot. -/
def Slot.signed (d : Slot) (n : Int) : Octets :=
  d.padNumber (d.zeros && d.precision.isNone) (d.sign (n < 0)) (d.digits 10 n.natAbs)

/-- A whole number without a sign in a slot, in the base of its letter. -/
def Slot.unsigned (d : Slot) (n : Nat) : Octets :=
  let zeros := d.zeros && d.precision.isNone
  match d.letter with
  | 'o' =>
    let ds := d.digits 8 n
    d.padNumber zeros [] (if d.alternate && ds.head? ≠ some '0' then '0' :: ds else ds)
  | 'x' => d.padNumber zeros (if d.alternate && n ≠ 0 then ['0', 'x'] else []) (d.digits 16 n)
  | 'X' => d.padNumber zeros (if d.alternate && n ≠ 0 then ['0', 'X'] else []) ((d.digits 16 n).map Char.toUpper)
  | _ => d.padNumber zeros [] (d.digits 10 n)

/-! ## Fractions -/

/-- A number in a slot for fractions. -/
def Slot.real (d : Slot) (exactness : Exactness) (x : Real) : Octets :=
  let upper := d.letter.isUpper
  let letter := d.letter.toLower
  let shown (cs : Octets) : Octets := if upper then cs.map Char.toUpper else cs
  match x with
  | .unbounded negative => d.pad (d.sign negative ++ shown "inf".toList)
  | .undefined negative => d.pad (d.sign negative ++ shown "nan".toList)
  | .fraction negative num den =>
    let places := d.precision.getD 6
    let start := if letter = 'a' then shown ['0', 'x'] else []
    let body :=
      if letter = 'a' then hexadecimal exactness d.precision d.alternate num den
      else if letter = 'f' then pointed d.alternate (Decimal.roundHalfEven (num * Nat.pow 10 places) den) places
      else if letter = 'e' then
        let (n, e) := scientific num den places
        pointed d.alternate n places ++ exponentText e
      else
        let p := max places 1
        let (n, e) := scientific num den (p - 1)
        if -4 ≤ e && e < p then
          let after := ((p : Int) - 1 - e).toNat
          let cs := pointed d.alternate (Decimal.roundHalfEven (num * Nat.pow 10 after) den) after
          if d.alternate then cs else trimZeros cs
        else
          let cs := pointed d.alternate n (p - 1)
          (if d.alternate then cs else trimZeros cs) ++ exponentText e
    d.padNumber d.zeros (d.sign negative ++ start) (shown body)

end Diagnostics.Sandbox
