import Diagnostics.Decimal
import Diagnostics.Sandbox.Tool.Record.Program

/-!
# Values and tables

A value is a number or a text, and either can be had from the other. What has been read from a file is a text that
counts as a number if it looks like one. Tables hold values under keys, which are texts.
-/

namespace Diagnostics.Sandbox

/-! ## Numbers -/

namespace Real

/-- The nearest number of double precision. -/
def toFloat (r : Real) : Float :=
  match (r.rounded .double).1 with
  | .fraction negative num den =>
    let x := if den = 1 then Float.ofNat num else (Float.ofNat num).scaleB (-(Nat.log2 den : Int))
    if negative then -x else x
  | .unbounded negative => if negative then -1.0 / 0.0 else 1.0 / 0.0
  | .undefined negative => if negative then -(0.0 / 0.0) else 0.0 / 0.0

/-- A number of double precision as a fraction. One that is undefined counts as negative. -/
def ofFloat (x : Float) : Real :=
  match Binary.ofFloat? x with
  | some b =>
    let (num, den) := b.fraction
    .fraction b.negative num den
  | none => if x.isNaN then .undefined true else .unbounded (x < 0.0)

end Real

/-- A number without what comes after its point; a number that is none is zero. -/
def wholeOf (x : Float) : Int :=
  match Real.ofFloat x with
  | .fraction negative num den => if negative then -(num / den : Nat) else (num / den : Nat)
  | _ => 0

/-- The number is whole. -/
def isWhole (x : Float) : Bool := x.floor == x && !x.isInf

/-- The nearest whole number that a signed word of 64 bits holds. -/
def boundedWhole (x : Float) : Int :=
  let limit : Int := 9223372036854775807
  if x.isNaN then -limit - 1
  else if x ≥ 9223372036854775808.0 then limit
  else if x ≤ -9223372036854775808.0 then -limit
  else wholeOf x

/-- The nearest whole number that a word of 64 bits without a sign holds. -/
def unsignedWhole (x : Float) : Nat :=
  if x < 0.0 then ((boundedWhole x) % 18446744073709551616).toNat
  else if x ≥ 18446744073709551616.0 then 18446744073709551615
  else (wholeOf x).toNat

/-- The number at the beginning of a text; zero if there is none. -/
def numberAt (cs : Octets) : Float :=
  match takeReal cs with
  | some (r, _) => r.toFloat
  | none => 0.0

/-- A number with blanks around it is all of the text. -/
def looksLikeNumber (cs : Octets) : Bool :=
  match cs.dropWhile isNumberBlank with
  | c :: rest =>
    if c.isDigit || "+-.".toList.contains c then
      match takeReal (c :: rest) with
      | some (_, left) => left.all isNumberBlank
      | none => false
    else false
  | [] => false

/-! ## Values -/

/-- A value. -/
inductive RecordValue
  | unset
  | number (x : Float)
  | text (cs : Octets)
  | read (cs : Octets)

/-- Some values go into a format. -/
structure Formatted where
  text : Octets
  fault : Option Octets := none

namespace RecordValue

/-- The value as a number. -/
def toFloat : RecordValue → Float
  | .unset => 0.0
  | .number x => x
  | .text cs => numberAt cs
  | .read cs => numberAt cs

/-- The value counts as a number. -/
def isNumeric : RecordValue → Bool
  | .unset => true
  | .number _ => true
  | .text _ => false
  | .read cs => looksLikeNumber cs

/-- A value holds if it is a number other than zero, or a text that is not empty. -/
def holds : RecordValue → Bool
  | .unset => false
  | .number x => x != 0.0
  | .text cs => !cs.isEmpty
  | .read cs => if looksLikeNumber cs then numberAt cs != 0.0 else !cs.isEmpty

/-- A number or nothing at all from a condition. -/
def ofBool (b : Bool) : RecordValue := .number (if b then 1.0 else 0.0)

/-! ## Formats -/

/-- A slot with its letter, and whether its width and its precision are given by values; what follows it. -/
def takeSlot (cs : Octets) : Slot × Bool × Bool × Octets :=
  let (d, rest) := ({ letter := 's' } : Slot).flags cs
  let size (cs : Octets) : Option Nat × Bool × Octets :=
    match cs with
    | '*' :: rest => (none, true, rest)
    | cs =>
      let digits := cs.takeWhile Char.isDigit
      (if digits.isEmpty then none else some (takeNumeral 10 0 digits).1, false, cs.drop digits.length)
  let (width, widthGiven, rest) := size rest
  let (precision, precisionGiven, rest) := match rest with
    | '.' :: rest =>
      let (n, given, rest) := size rest
      (if given then none else some (n.getD 0), given, rest)
    | rest => (none, false, rest)
  let rest := rest.dropWhile fun c => "hlL".toList.contains c
  ({ d with width := width.getD 0, precision, letter := rest.headD '\x00' }, widthGiven, precisionGiven, rest.drop 1)

/-- Letters of slots. -/
def slotLetters : Octets := "cdiouxXeEfFgGs".toList

/-- A number as it is written: a whole one with all its digits, and another one in a format. -/
def shownNumber (format : Octets) (x : Float) : Octets :=
  if isWhole x && x ≥ -9223372036854775808.0 && x ≤ 18446744073709551616.0 then
    if x < 0.0 then (toString (wholeOf x)).toList else (toString (unsignedWhole x)).toList
  else
    let before := format.takeWhile (· != '%')
    match format.drop before.length with
    | _ :: rest =>
      let (d, _, _, after) := takeSlot rest
      let shown := if "di".toList.contains d.letter then d.signed (boundedWhole x)
        else if "ouxX".toList.contains d.letter then d.unsigned (unsignedWhole x)
        else if d.letter = 'c' then d.pad [octet (unsignedWhole x)]
        else d.real .double (Real.ofFloat x)
      before ++ shown ++ after
    | [] => before

/-- The value as a text; numbers that are not whole are written in a format. -/
def toText (format : Octets) : RecordValue → Octets
  | .unset => []
  | .number x => shownNumber format x
  | .text cs => cs
  | .read cs => cs

/-- A value in a slot. -/
def inSlot (format : Octets) (d : Slot) (v : RecordValue) : Octets :=
  match d.letter with
  | 's' => d.text (v.toText format)
  | 'c' =>
    match v with
    | .number x => d.pad [octet (boundedWhole x % 256).toNat]
    | v => d.pad [(v.toText format).headD '\x00']
  | 'd' => signedOrGreat
  | 'i' => signedOrGreat
  | c =>
    if "ouxX".toList.contains c then d.unsigned (unsignedWhole v.toFloat)
    else d.real .double (Real.ofFloat v.toFloat)
where
  /-- A whole number; one that is too great for a sign has none. -/
  signedOrGreat : Octets :=
    let x := v.toFloat
    if x ≥ 9223372036854775808.0 then { d with letter := 'u' }.unsigned (unsignedWhole x)
    else d.signed (boundedWhole x)

/-- Put values into the slots of a format; `count` slots have been filled. A fault is told up to the format. -/
def formatWith (numberFormat : Octets) : Nat → Nat → Octets → List RecordValue → List Octets → Formatted
  | 0, _, _, _, seen => ⟨seen.reverse.flatten, none⟩
  | _, _, [], _, seen => ⟨seen.reverse.flatten, none⟩
  | fuel + 1, count, '%' :: '%' :: rest, values, seen => formatWith numberFormat fuel count rest values (['%'] :: seen)
  | fuel + 1, count, '%' :: rest, values, seen =>
    let (d, widthGiven, precisionGiven, after) := takeSlot rest
    let missing : Formatted := ⟨seen.reverse.flatten, some "not enough arguments passed to ".toList⟩
    match sized d widthGiven precisionGiven values with
    | none => missing
    | some (_, []) => missing
    | some (d, v :: values) =>
      if slotLetters.contains d.letter then
        formatWith numberFormat fuel (count + 1) after values (inSlot numberFormat d v :: seen)
      else
        ⟨seen.reverse.flatten, some ("improper conversion(number ".toList ++ (toString (count + 1)).toList ++
          ") in ".toList)⟩
  | fuel + 1, count, c :: rest, values, seen =>
    let plain := (c :: rest).takeWhile (· != '%')
    formatWith numberFormat fuel count ((c :: rest).drop plain.length) values (plain :: seen)
where
  /-- Take the width and the precision from values. -/
  sized (d : Slot) (widthGiven precisionGiven : Bool) (values : List RecordValue) :
      Option (Slot × List RecordValue) :=
    let first : Option (Slot × List RecordValue) :=
      if !widthGiven then some (d, values)
      else
        match values with
        | v :: rest =>
          let n := boundedWhole v.toFloat
          some ({ d with width := n.natAbs, left := d.left || n < 0 }, rest)
        | [] => none
    match first with
    | none => none
    | some (d, values) =>
      if !precisionGiven then some (d, values)
      else
        match values with
        | v :: rest =>
          let n := boundedWhole v.toFloat
          some ({ d with precision := if n < 0 then none else some n.toNat }, rest)
        | [] => none

/-- Put values into the slots of a format. -/
def formatted (numberFormat format : Octets) (values : List RecordValue) : Formatted :=
  formatWith numberFormat (format.length + 1) 0 format values []

end RecordValue

/-! ## Tables -/

/-- A table. Its places go by the low digits of a sum over the key; within one the last key used comes first. -/
structure RecordTable where
  places : Array (List (Octets × RecordValue)) := Array.replicate 64 []
  size : Nat := 0

namespace RecordTable

/-- A sum over a key. -/
def sumOf (key : Octets) : Nat :=
  (key.foldl (fun (h : UInt32) c => (h ^^^ UInt32.ofNat c.toNat) * 16777619) 2166136261).toNat

/-- The place of a key. -/
def placeOf (t : RecordTable) (key : Octets) : Nat := sumOf key % t.places.size

/-- So many keys there may be for each place. -/
def crowd : Nat := 12

/-- Make twice as many places when there are too many keys. -/
def grown (t : RecordTable) : RecordTable :=
  if t.size ≤ crowd * t.places.size then t
  else
    let count := 2 * t.places.size
    let isAt (n : Nat) (entry : Octets × RecordValue) : Bool := sumOf entry.1 % count == n
    { t with places := (Array.range count).map fun n =>
        ((t.places[n % t.places.size]?).getD []).filter (isAt n) }

/-- The value of a key, which is used by this. -/
def find (t : RecordTable) (key : Octets) : Option RecordValue × RecordTable :=
  let n := t.placeOf key
  let entries := (t.places[n]?).getD []
  match entries.lookup key with
  | some v => (some v, { t with places := t.places.set! n ((key, v) :: entries.filter (·.1 ≠ key)) })
  | none => (none, t)

/-- The key is there. -/
def has (t : RecordTable) (key : Octets) : Bool := (((t.places[t.placeOf key]?).getD []).lookup key).isSome

/-- Set the value of a key. -/
def set (t : RecordTable) (key : Octets) (v : RecordValue) : RecordTable :=
  let n := t.placeOf key
  let entries := (t.places[n]?).getD []
  let isNew := (entries.lookup key).isNone
  grown { places := t.places.set! n ((key, v) :: entries.filter (·.1 ≠ key)), size := if isNew then t.size + 1 else t.size }

/-- Take a key away. -/
def erase (t : RecordTable) (key : Octets) : RecordTable :=
  let n := t.placeOf key
  let entries := (t.places[n]?).getD []
  if (entries.lookup key).isNone then t
  else { places := t.places.set! n (entries.filter (·.1 ≠ key)), size := t.size - 1 }

/-- The keys, in the order of their places. -/
def keys (t : RecordTable) : List Octets := t.places.toList.flatMap fun entries => entries.map (·.1)

end RecordTable

end Diagnostics.Sandbox
