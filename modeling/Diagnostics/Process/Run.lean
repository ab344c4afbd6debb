import Diagnostics.Duration
import Diagnostics.Error

/-!
# Runs of a process

What is asked of a process and what comes back. A run that outlives its limit is killed; it has no status,
and each of its captured texts ends with a marker.
-/

namespace Diagnostics

/-- What a captured text of a killed run ends with. -/
def timeoutMarker : String := "\nTimeout!"

/-- What is to be run. -/
structure ProcessRequest where
  program : String
  args : List String := []
  input : List UInt8 := []
  limit : Option Duration := none
  mergeStderr : Bool := true

namespace ProcessRequest

/-- Limit the run; no time at all is no limit. -/
def withLimit (r : ProcessRequest) (limit : Option Duration) : ProcessRequest :=
  { r with limit := limit.filter fun d => !d.isZero }

/-- The program and its arguments. -/
def commandLine (r : ProcessRequest) : List String := r.program :: r.args

end ProcessRequest

/-- How a process ended by itself. -/
inductive ExitStatus
  | code (n : Nat)
  | signal (n : Nat)
  deriving DecidableEq

/-- How a run ended. -/
inductive RunOutcome
  | finished (status : ExitStatus)
  | timedOut
  deriving DecidableEq

/-- What a run wrote, how it ended, and how long it took. Standard error is empty if it went to the capture
of standard output. -/
structure Capture where
  stdout : String
  stderr : String
  outcome : RunOutcome
  elapsed : Duration

/-- What a run is reported as. -/
structure ProcessOutput where
  stdout : String
  stderr : String
  outcome : RunOutcome
  elapsed : Duration

namespace ProcessOutput

/-- The limit fired. -/
def timedOut (o : ProcessOutput) : Bool := o.outcome == .timedOut

/-- Report a capture: the texts of a killed run get the marker, both of them. -/
def ofCapture (c : Capture) : ProcessOutput :=
  match c.outcome with
  | .finished _ => { stdout := c.stdout, stderr := c.stderr, outcome := c.outcome, elapsed := c.elapsed }
  | .timedOut =>
    { stdout := c.stdout ++ timeoutMarker, stderr := c.stderr ++ timeoutMarker, outcome := c.outcome,
      elapsed := c.elapsed }

/-- A text without an ending, if it has it. -/
def withoutEnding (ending text : String) : String :=
  if ending.toList.isSuffixOf text.toList then
    String.ofList (text.toList.take (text.toList.length - ending.toList.length))
  else text

/-- Standard output and then standard error. If the run was killed the marker stands once, at the end. -/
def combined (o : ProcessOutput) : String :=
  if o.stderr.isEmpty then o.stdout
  else (if o.timedOut then withoutEnding timeoutMarker o.stdout else o.stdout) ++ o.stderr

end ProcessOutput

end Diagnostics
