import Diagnostics.Duration

/-!
# Retry policies

How often a launch that failed for a passing reason is tried again, and how long to wait before each try.
The wait grows by a factor from try to try and is cut at a ceiling. Waits are computed in binary floating
point and cut down to whole milliseconds. Retries are counted in 32 bits. The exponent of the factor is one less than
the count, in 32 bits with a sign, so it is negative from the 2147483649th retry on.
-/

namespace Diagnostics

/-- When to try again. Without a largest count the launch is tried for ever. The factor is kept as the bits
of a number, so that one that is no number stays what it is. -/
structure RetryPolicy where
  maxRetries : Option UInt32
  initialBackoff : Nat
  multiplierBits : UInt64
  maxBackoff : Nat
  deriving DecidableEq

namespace RetryPolicy

/-- The factor. -/
def multiplier (p : RetryPolicy) : Float := Float.ofBits p.multiplierBits

/-- The bits of the factor one. -/
def oneBits : UInt64 := 0x3ff0000000000000

/-- The number of values of 64 bits. -/
def wordSize : Nat := 18446744073709551616

/-- Try for ever, with the same wait each time. -/
def unbounded (backoff : Duration) : RetryPolicy :=
  let ms := backoff.milliseconds % wordSize
  { maxRetries := none, initialBackoff := ms, multiplierBits := oneBits, maxBackoff := ms }

/-- Try at most so many times again, with the same wait each time. -/
def bounded (maxRetries : UInt32) (backoff : Duration) : RetryPolicy :=
  { unbounded backoff with maxRetries := some maxRetries }

/-- Never try again. -/
def never : RetryPolicy := bounded 0 Duration.zero

/-- Try for ever, ten seconds apart. -/
def default : RetryPolicy := unbounded (Duration.ofMilliseconds 10000)

/-- The policy gives up at some time. -/
def isBounded (p : RetryPolicy) : Bool := p.maxRetries.isSome

/-- Another try is allowed after so many. -/
def allows (p : RetryPolicy) (retries : UInt32) : Bool := p.maxRetries.all (retries < ·)

/-- `a ^ n` by repeated squaring, the lowest bit of the exponent first. -/
def powerFrom (r a : Float) (n : Nat) : Float :=
  let r := if n % 2 = 1 then r * a else r
  if n / 2 = 0 then r else powerFrom r (a * a) (n / 2)
termination_by n
decreasing_by omega

/-- A whole power; a negative one is the reciprocal. -/
def power (a : Float) (n : Int) : Float :=
  let r := powerFrom 1.0 a n.natAbs
  if n < 0 then 1.0 / r else r

/-- The exponent of the factor before a retry, in 32 bits with a sign. It wraps: one less than the least number is the
largest. -/
def exponent (retry : UInt32) : Int32 := retry.toInt32 - 1

/-- The wait before a retry in milliseconds; retries count from one. -/
def backoff (p : RetryPolicy) (retry : UInt32) : Nat :=
  if retry = 0 then 0
  else
    let wait := p.initialBackoff.toUInt64.toFloat * power p.multiplier (exponent retry).toInt
    min wait.toUInt64.toNat p.maxBackoff

/-- The wait before a retry. -/
def backoffDuration (p : RetryPolicy) (retry : UInt32) : Duration := Duration.ofMilliseconds (p.backoff retry)

/-- No wait is longer than the ceiling. -/
theorem backoff_le (p : RetryPolicy) (retry : UInt32) : p.backoff retry ≤ p.maxBackoff := by
  unfold backoff
  split
  · exact Nat.zero_le _
  · exact Nat.min_le_right _ _

end RetryPolicy

end Diagnostics
