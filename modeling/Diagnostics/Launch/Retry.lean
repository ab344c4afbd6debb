import Diagnostics.Decimal
import Diagnostics.Error
import Diagnostics.Launch.RetryPolicy

/-!
# Launching with retries

A launch is repeated while it fails for a passing reason and the policy allows it. The outcomes of the
attempts come as a list; if it ends before the launch is settled, the launch is still waiting. What the launch
does is written down step by step: between an attempt and the next one it gives notice of the error and then sleeps
for as long as the policy asks.
-/

namespace Diagnostics

/-- What is reported before a retry. -/
structure RetryNotice where
  command : List String
  cause : OsError
  retry : UInt32
  wait : Duration

/-- The program of a command line. -/
def programOf (command : List String) : String := command.headD ""

/-- The notice in words. -/
def RetryNotice.message (n : RetryNotice) : String :=
  "Launching " ++ programOf n.command ++ " failed with " ++ n.cause.message ++ "; trying again in "
    ++ Decimal.fixed 1 n.wait.inSeconds ++ "s"

/-- What a launch does: it makes an attempt, gives notice, or asks the clock for a sleep. -/
inductive LaunchStep
  | attempt
  | notice (notice : RetryNotice)
  | sleep (delay : Duration)

namespace LaunchStep

/-- The step is an attempt. -/
def isAttempt : LaunchStep → Bool
  | attempt => true
  | _ => false

/-- The notice that is given. -/
def notice? : LaunchStep → Option RetryNotice
  | notice n => some n
  | _ => none

/-- The sleep that is asked for. -/
def sleep? : LaunchStep → Option Duration
  | sleep delay => some delay
  | _ => none

end LaunchStep

/-- An attempt that is followed by a retry: the notice of it, and the sleep before the next attempt. -/
def RetryNotice.steps (n : RetryNotice) : List LaunchStep := [.attempt, .notice n, .sleep n.wait]

/-- How a launch went: its result, if it is settled, and what was done in order. -/
structure LaunchRun (α : Type) where
  result : Option (Except DiagnosticError α)
  steps : List LaunchStep

namespace LaunchRun

/-- The number of attempts. -/
def attempts (run : LaunchRun α) : Nat := (run.steps.filter (·.isAttempt)).length

/-- The notices in order. -/
def notices (run : LaunchRun α) : List RetryNotice := run.steps.filterMap LaunchStep.notice?

/-- The sleeps in order. -/
def sleeps (run : LaunchRun α) : List Duration := run.steps.filterMap LaunchStep.sleep?

/-- The run of a launch whose first attempt is followed by a retry. -/
def afterRetry (notice : RetryNotice) (run : LaunchRun α) : LaunchRun α :=
  { run with steps := notice.steps ++ run.steps }

variable (notice : RetryNotice) (run : LaunchRun α)

@[simp] theorem result_afterRetry : (run.afterRetry notice).result = run.result := rfl
@[simp] theorem attempts_afterRetry : (run.afterRetry notice).attempts = run.attempts + 1 := rfl
@[simp] theorem notices_afterRetry : (run.afterRetry notice).notices = notice :: run.notices := rfl
@[simp] theorem sleeps_afterRetry : (run.afterRetry notice).sleeps = notice.wait :: run.sleeps := rfl

end LaunchRun

/-- What follows from one attempt. -/
inductive Attempt (α : Type)
  | settled (result : Except DiagnosticError α)
  | retry (notice : RetryNotice)

/-- Judge the outcome of the attempt after `retries` retries. -/
def judge (policy : RetryPolicy) (command : List String) (retries : UInt32) :
    Except OsError α → Attempt α
  | .ok value => .settled (.ok value)
  | .error cause =>
    if !cause.isTransient then .settled (.error (.launchFailed (programOf command) cause))
    else if !policy.allows retries then
      .settled (.error (.retriesExhausted (programOf command) (retries + 1) cause))
    else .retry { command, cause, retry := retries + 1, wait := policy.backoffDuration (retries + 1) }

/-- Go on after `retries` retries. -/
def launchFrom (policy : RetryPolicy) (command : List String) (retries : UInt32) :
    List (Except OsError α) → LaunchRun α
  | [] => { result := none, steps := [] }
  | outcome :: outcomes =>
    match judge policy command retries outcome with
    | .settled result => { result := some result, steps := [.attempt] }
    | .retry notice => (launchFrom policy command (retries + 1) outcomes).afterRetry notice

/-- Launch a command whose attempts have the given outcomes. -/
def launch (policy : RetryPolicy) (command : List String) (outcomes : List (Except OsError α)) :
    LaunchRun α := launchFrom policy command 0 outcomes

end Diagnostics
