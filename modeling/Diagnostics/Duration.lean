/-!
# Durations

A length of time in whole nanoseconds. Seconds and the rest of a second are two views of it.
-/

namespace Diagnostics

/-- A length of time. -/
structure Duration where
  nanoseconds : Nat
  deriving DecidableEq

namespace Duration

/-- Nanoseconds in a second. -/
def perSecond : Nat := 1000000000

/-- Nanoseconds in a millisecond. -/
def perMillisecond : Nat := 1000000

def zero : Duration := ⟨0⟩

def ofSeconds (s : Nat) : Duration := ⟨s * perSecond⟩

def ofMilliseconds (ms : Nat) : Duration := ⟨ms * perMillisecond⟩

/-- Whole seconds and nanoseconds on top of them. -/
def ofParts (seconds nanos : Nat) : Duration := ⟨seconds * perSecond + nanos⟩

/-- The whole seconds. -/
def seconds (d : Duration) : Nat := d.nanoseconds / perSecond

/-- The nanoseconds on top of the whole seconds. -/
def nanos (d : Duration) : Nat := d.nanoseconds % perSecond

/-- The whole milliseconds. -/
def milliseconds (d : Duration) : Nat := d.nanoseconds / perMillisecond

/-- The least number of whole seconds that is not shorter. -/
def ceilSeconds (d : Duration) : Nat := if d.nanos = 0 then d.seconds else d.seconds + 1

def isZero (d : Duration) : Bool := d.nanoseconds == 0

instance : LE Duration := ⟨fun a b => a.nanoseconds ≤ b.nanoseconds⟩
instance : LT Duration := ⟨fun a b => a.nanoseconds < b.nanoseconds⟩
instance (a b : Duration) : Decidable (a ≤ b) := inferInstanceAs (Decidable (a.nanoseconds ≤ b.nanoseconds))
instance (a b : Duration) : Decidable (a < b) := inferInstanceAs (Decidable (a.nanoseconds < b.nanoseconds))
instance : Add Duration := ⟨fun a b => ⟨a.nanoseconds + b.nanoseconds⟩⟩

/-- The duration in seconds as a floating point number. -/
def inSeconds (d : Duration) : Float :=
  d.seconds.toUInt64.toFloat + d.nanos.toUInt64.toFloat / 1000000000.0

/-- A number of units with the decimals that are not zero at the end. -/
def withFraction (whole rest places : Nat) (unit : String) : String :=
  let digits := (Nat.toDigits 10 rest)
  let padded := List.replicate (places - digits.length) '0' ++ digits
  let kept := (padded.reverse.dropWhile (· == '0')).reverse
  if rest = 0 then toString whole ++ unit else toString whole ++ "." ++ String.ofList kept ++ unit

/-- The duration in the largest unit of which it holds at least one, with all its decimals. -/
def text (d : Duration) : String :=
  let n := d.nanoseconds
  if perSecond ≤ n then withFraction (n / perSecond) (n % perSecond) 9 "s"
  else if perMillisecond ≤ n then withFraction (n / perMillisecond) (n % perMillisecond) 6 "ms"
  else if 1000 ≤ n then withFraction (n / 1000) (n % 1000) 3 "µs"
  else toString n ++ "ns"

end Duration

end Diagnostics
