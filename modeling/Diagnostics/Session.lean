import Diagnostics.Config
import Diagnostics.Session.Request
import Diagnostics.Table
import Diagnostics.Text.LineBreaks

/-!
# Sessions

A session answers requests for compiler output and remembers the answers. It also learns, from the first run
that it observes, how long a run may take. Every request is resolved, looked up, and only if it is not
remembered run; the steps in between are functions of their own, each of which changes the state once.

The surroundings of a session are given: something that makes and removes scratch files, something that runs
processes, and a log. Each acts on a state of the surroundings that the session passes along unseen.
-/

namespace Diagnostics

/-- What a session works with. -/
structure Workshop (σ : Type) where
  create : String → String → σ → Except DiagnosticError Path × σ
  cleanup : Path → σ → σ
  run : ProcessRequest → σ → Except DiagnosticError ProcessOutput × σ
  log : String → σ → σ

/-- Requests with equal keys get the same answer. -/
structure CacheKey where
  program : String
  args : List String
  contents : String
  timeout : TimeoutSpec
  deriving DecidableEq

/-- The key of a request whose timeout has been resolved. -/
def CacheKey.ofRequest (r : CompileRequest) (timeout : TimeoutSpec) : CacheKey :=
  { program := r.program, args := r.args, contents := r.contents, timeout }

/-- An answer, and the scratch file that it was made from. -/
structure CacheEntry where
  file : Path
  output : CompilerOutput
  deriving DecidableEq

/-- A session. Hits and misses are counted without end; a counter of 64 bits shows the same up to the first 2 ^ 64
requests. -/
structure Session where
  config : DiagnoseConfig
  learned : Option Duration := none
  cache : Table CacheKey CacheEntry := []
  hits : Nat := 0
  misses : Nat := 0

namespace Session

/-! ## The state -/

/-- A session that has not run anything. -/
def fresh (config : DiagnoseConfig) : Session := { config }

/-- Forget the learned timeout. -/
def resetTimeout (s : Session) : Session := { s with learned := none }

/-- Forget the answers. -/
def clearCache (s : Session) : Session := { s with cache := [] }

/-- Forget both. -/
def reset (s : Session) : Session := s.clearCache.resetTimeout

/-- The number of answers remembered. -/
def cacheSize (s : Session) : Nat := s.cache.length

/-- An adaptive timeout becomes the learned limit as soon as there is one. -/
def resolve (s : Session) (t : TimeoutSpec) : TimeoutSpec :=
  match t, s.learned with
  | .adaptive, some d => .limit d
  | t, _ => t

/-- The key under which a request is looked up at present. -/
def key (s : Session) (r : CompileRequest) : CacheKey := CacheKey.ofRequest r (s.resolve r.timeout)

/-- The scratch file of the remembered answer to a request. -/
def recordedFile (s : Session) (r : CompileRequest) : Option Path := (s.cache.get? (s.key r)).map (·.file)

/-- Count a request that was remembered. -/
def countHit (s : Session) : Session := { s with hits := s.hits + 1 }

/-- Count a request that was not remembered. -/
def countMiss (s : Session) : Session := { s with misses := s.misses + 1 }

/-- Learn from the length of a run, unless something has been learned. -/
def observe (s : Session) (elapsed : Duration) : Session :=
  match s.learned with
  | some _ => s
  | none => { s with learned := some (adaptiveTimeout elapsed) }

/-- Remember an answer, and give back the one that is remembered: another may have come first. -/
def record (s : Session) (k : CacheKey) (e : CacheEntry) : CacheEntry × Session :=
  let cache := s.cache.keep k e
  ((cache.get? k).getD e, { s with cache })

/-! ## Answering a request -/

/-- What the log says about a command line. -/
def logMessage (commandLine : List String) : String := "\nRunning command: " ++ formatCommandLine commandLine

/-- Log a command line if the session is verbose enough for the request. -/
def logCommand (s : Session) (w : Workshop σ) (r : CompileRequest) (commandLine : List String) (world : σ) :
    σ :=
  if r.logThreshold ≤ s.config.verbosity then w.log (logMessage commandLine) world else world

/-- The process that answers a request. -/
def process (s : Session) (timeout : TimeoutSpec) (commandLine : List String) : ProcessRequest :=
  { program := commandLine.headD "", args := commandLine.drop 1, limit := timeout.limit?,
    mergeStderr := s.config.mergeStderr }

/-- The answer that a run makes. -/
def answerOf (run : ProcessOutput) (commandLine : List String) : CompilerOutput :=
  { output := LineBreaks.canonical run.combined, commandLine }

/-- Run the compiler on a new scratch file, which is cleaned up before anything is made of the run. -/
def compile (s : Session) (w : Workshop σ) (r : CompileRequest) (timeout : TimeoutSpec) (world : σ) :
    Except DiagnosticError (Path × List String × ProcessOutput) × σ :=
  match w.create r.contents s.config.scratchSuffix world with
  | (.error e, world) => (.error e, world)
  | (.ok file, world) =>
    let commandLine := r.commandLine file
    let world := s.logCommand w r commandLine world
    let (result, world) := w.run (s.process timeout commandLine) world
    (result.map fun run => (file, commandLine, run), w.cleanup file world)

/-- The output for a request, remembered or made. -/
def getOutput (s : Session) (w : Workshop σ) (r : CompileRequest) (world : σ) :
    Except DiagnosticError CompilerOutput × Session × σ :=
  let timeout := s.resolve r.timeout
  let k := CacheKey.ofRequest r timeout
  match s.cache.get? k with
  | some entry => (.ok entry.output, s.countHit, s.logCommand w r entry.output.commandLine world)
  | none =>
    let s := s.countMiss
    match s.compile w r timeout world with
    | (.error e, world) => (.error e, s, world)
    | (.ok (file, commandLine, run), world) =>
      let (entry, s) := (s.observe run.elapsed).record k { file, output := answerOf run commandLine }
      (.ok entry.output, s, world)

end Session

end Diagnostics
