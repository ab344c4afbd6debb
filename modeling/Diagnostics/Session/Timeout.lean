import Diagnostics.Decimal
import Diagnostics.Duration

/-!
# Timeouts

A run may be limited, unlimited, or limited by what the session has learned. A session learns from the first
run that it observes: twice its length in whole seconds, rounded up, and two seconds at least.
-/

namespace Diagnostics

/-- How long a run may take. -/
inductive TimeoutSpec
  | adaptive
  | unbounded
  | limit (d : Duration)
  deriving DecidableEq

namespace TimeoutSpec

/-- A count of seconds: a negative one is adaptive, zero is no limit. -/
def ofSeconds (s : Int) : TimeoutSpec :=
  if s < 0 then adaptive else if s = 0 then unbounded else limit (Duration.ofSeconds s.toNat)

/-- The limit to enforce; a limit of no time is none. -/
def limit? : TimeoutSpec → Option Duration
  | limit d => if d.isZero then none else some d
  | _ => none

/-- The timeout in words. -/
def text : TimeoutSpec → String
  | adaptive => "adaptive"
  | unbounded => "unbounded"
  | limit d => Decimal.plain d.inSeconds ++ "s"

end TimeoutSpec

/-- The limit learned from a run of the given length. -/
def adaptiveTimeout (elapsed : Duration) : Duration := Duration.ofSeconds (2 * max 1 elapsed.ceilSeconds)

end Diagnostics
