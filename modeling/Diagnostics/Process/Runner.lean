import Diagnostics.Launch.Retry
import Diagnostics.Process.Run

/-!
# Running processes

A runner launches a process under a retry policy and reports the run that came of it. After a kill it waits
for a grace until the captured streams are closed.
-/

namespace Diagnostics

/-- How processes are run. -/
structure ProcessRunner where
  retry : RetryPolicy := RetryPolicy.default
  grace : Duration := Duration.ofMilliseconds 500

namespace ProcessRunner

/-- The report of a request whose attempts end as given. -/
def report (r : ProcessRunner) (request : ProcessRequest) (attempts : List (Except OsError Capture)) :
    LaunchRun ProcessOutput :=
  launch r.retry request.commandLine (attempts.map (·.map ProcessOutput.ofCapture))

/-- The attempts of a launch that goes the same way every time; only a failure that passes is tried again. -/
def sameAttempts (r : ProcessRunner) (attempt : Except OsError Capture) : List (Except OsError Capture) :=
  match attempt with
  | .ok _ => [attempt]
  | .error cause =>
    if cause.isTransient then List.replicate ((r.retry.maxRetries.getD 0).toNat + 1) attempt else [attempt]

end ProcessRunner

end Diagnostics
