import Diagnostics.Sandbox.Tool.Number

/-!
# Octets as digits

Tools that write octets as digits of a base that is a power of two, and read them back. Digits come in groups that hold
whole octets, and a group that is not full is filled up with signs.
-/

namespace Diagnostics.Sandbox

/-- A way to write octets as digits: the digits, how many bits each of them has, how many of them make a group, and
whether groups are filled up. -/
structure DigitCode where
  digits : Octets
  bits : Nat
  group : Nat
  fills : Bool := true
  lowFirst : Bool := false

namespace DigitCode

/-- The letters of the alphabet. -/
def upperLetters : Octets := "ABCDEFGHIJKLMNOPQRSTUVWXYZ".toList

/-- Digits in base 64. -/
def base64 : DigitCode :=
  { digits := upperLetters ++ upperLetters.map Char.toLower ++ "0123456789+/".toList, bits := 6, group := 4 }

/-- Digits in base 64 that may stand in addresses. -/
def base64Address : DigitCode :=
  { base64 with digits := upperLetters ++ upperLetters.map Char.toLower ++ "0123456789-_".toList }

/-- Digits in base 32. -/
def base32 : DigitCode := { digits := upperLetters ++ "234567".toList, bits := 5, group := 8 }

/-- Digits in base 32 whose order is that of the octets. -/
def base32Ordered : DigitCode := { base32 with digits := "0123456789".toList ++ upperLetters.take 22 }

/-- Digits in base 16. -/
def base16 : DigitCode := { digits := "0123456789ABCDEF".toList, bits := 4, group := 2, fills := false }

/-- Digits in base 2, the highest first. -/
def base2High : DigitCode := { digits := "01".toList, bits := 1, group := 8, fills := false }

/-- Digits in base 2, the lowest first. -/
def base2Low : DigitCode := { base2High with lowFirst := true }

/-! ## Writing -/

/-- The sign that fills groups up. -/
def filler : Char := '='

/-- The digits of a number, so many of them. -/
def digitsOf (c : DigitCode) : Nat → Nat → Octets → Octets
  | 0, _, seen => seen
  | count + 1, n, seen =>
    digitsOf c count (n / Nat.pow 2 c.bits) (c.digits.getD (n % Nat.pow 2 c.bits) '0' :: seen)

/-- The octets of a group that is full. -/
def octetsOfGroup (c : DigitCode) : Nat := c.group * c.bits / 8

/-- Octets of one group as digits. -/
def encodeGroup (c : DigitCode) (cs : Octets) : Octets :=
  let full := c.octetsOfGroup
  let n := (cs ++ List.replicate (full - cs.length) '\x00').foldl (fun n d => n * 256 + d.toNat) 0
  let shown := (cs.length * 8 + c.bits - 1) / c.bits
  let ds := (c.digitsOf c.group n []).take shown
  let ds := if c.lowFirst then ds.reverse else ds
  if c.fills then ds ++ List.replicate (c.group - shown) filler else ds

/-- Octets as digits. -/
def encode (c : DigitCode) (cs : Octets) : Octets :=
  let rec go : Nat → Octets → List Octets → List Octets
    | 0, _, seen => seen.reverse
    | _, [], seen => seen.reverse
    | fuel + 1, cs, seen => go fuel (cs.drop c.octetsOfGroup) (c.encodeGroup (cs.take c.octetsOfGroup) :: seen)
  (go (cs.length + 1) cs []).flatten

/-! ## Reading -/

/-- The value of a digit. -/
def valueOf? (c : DigitCode) (d : Char) : Option Nat := c.digits.findIdx? (· == d)

/-- The octets of one group of digits, and whether the group is as it should be. -/
def decodeGroup (c : DigitCode) (ds : Octets) : Octets × Bool :=
  let body := ds.takeWhile fun d => (c.valueOf? d).isSome
  let rest := ds.drop body.length
  let values := (if c.lowFirst then body.reverse else body).filterMap c.valueOf?
  let n := values.foldl (fun n v => n * Nat.pow 2 c.bits + v) 0
  let bits := body.length * c.bits
  let count := bits / 8
  let n := n / Nat.pow 2 (bits - 8 * count)
  let octets := ((List.range count).map fun i => Char.ofNat (n / Nat.pow 256 (count - 1 - i) % 256))
  let isWhole := ds.length = c.group && rest.all (· == filler) &&
    (rest.isEmpty || (c.fills && 0 < count && body.length = (8 * count + c.bits - 1) / c.bits))
  (if isWhole || c.group ≤ 4 then octets else [], isWhole)

/-- The octets of digits up to the first group that is not as it should be, and whether there is one. -/
def decode (c : DigitCode) : Nat → Octets → List Octets → Octets × Bool
  | 0, _, seen => (seen.reverse.flatten, true)
  | _, [], seen => (seen.reverse.flatten, true)
  | fuel + 1, ds, seen =>
    let (octets, isWhole) := c.decodeGroup (ds.take c.group)
    if isWhole then decode c fuel (ds.drop c.group) (octets :: seen) else ((octets :: seen).reverse.flatten, false)

end DigitCode

namespace Work

/-- Print digits in lines of a width, or all in one line without its end. -/
def printDigits (width : Nat) : Nat → Octets → Work Unit
  | 0, _ => pure ()
  | fuel + 1, ds => do
    if width = 0 then print ds
    else unless ds.isEmpty do
      printLine (ds.take width)
      printDigits width fuel (ds.drop width)

/-- Options of the tools that write octets as digits. -/
def digitRules : List OptionRule :=
  [⟨some 'd', "decode", .nothing⟩, ⟨some 'i', "ignore-garbage", .nothing⟩, ⟨some 'w', "wrap", .word⟩]

/-- Write a file as digits, or read it back. -/
def convertDigits (c : DigitCode) (settings : Settings) (words : List Octets) : Work Nat := do
  match words.drop 1 with
  | extra :: _ => extraOperand extra
  | [] => pure ()
  let width ← match settings.last? "wrap" with
    | none => pure 76
    | some cs => do pure (← countBetween "invalid wrap size" 0 greatestCount cs)
  let path := words.headD ['-']
  let descriptor ← match ← openInput path with
    | .ok n => pure n
    | .error e => fail (quoteNameIfNeeded path ++ ": ".toList ++ e.words.toList)
  match ← Task.readAll descriptor with
  | .error e => fail ("read error: ".toList ++ e.words.toList)
  | .ok cs =>
    if settings.has "decode" then
      let kept := if settings.has "ignore-garbage" then
          cs.filter fun d => (c.valueOf? d).isSome || d == DigitCode.filler
        else cs.filter (· != '\n')
      let (octets, isWhole) := c.decode (kept.length + 1) kept []
      print octets
      if !isWhole then fail "invalid input".toList
    else
      let ds := c.encode cs
      printDigits width (ds.length + 1) ds
    status

/-- Write a file as digits in base 64. -/
def base64 (args : List Octets) : Work Nat := do
  let (settings, words) ← readOptions digitRules args
  convertDigits .base64 settings words

/-- Write a file as digits in base 32. -/
def base32 (args : List Octets) : Work Nat := do
  let (settings, words) ← readOptions digitRules args
  convertDigits .base32 settings words

/-- Write a file as digits in a base that is named. -/
def basenc (args : List Octets) : Work Nat := do
  let codes : List (String × DigitCode) :=
    [("base64", .base64), ("base64url", .base64Address), ("base32", .base32), ("base32hex", .base32Ordered),
      ("base16", .base16), ("base2msbf", .base2High), ("base2lsbf", .base2Low)]
  let (settings, words) ← readOptions (digitRules ++ codes.map fun (name, _) => ⟨none, name, .nothing⟩) args
  match (settings.lastOf (codes.map (·.1))).bind fun name => codes.lookup name with
  | some c => convertDigits c settings words
  | none => misuse "missing encoding type".toList

end Work

end Diagnostics.Sandbox
