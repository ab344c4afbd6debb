import Diagnostics.Config
import Diagnostics.Process.Runner
import Diagnostics.Sandbox.Standard

/-!
# Running a process in the sandbox

The sandbox is a system with a present directory and an environment. A process gets its input through a pipe that
holds all of it, and its output is captured in one text or two. It has ended when it has, and when no process can write
to a captured text any more; if that is not before the limit, its whole group is killed. What it has left behind, files
and processes, is there for the next one.
-/

namespace Diagnostics

/-- Where processes are run. -/
structure Sandbox where
  system : Sandbox.System := { files := Sandbox.FileTree.standard }
  here : Octets := ['/']
  environment : Environment := []

namespace Sandbox

/-- Variables that are there if nothing else is said. -/
def standardEnvironment : Environment :=
  [("PATH", "/usr/local/cargo/bin:/usr/local/sbin:/usr/local/bin:/usr/sbin:/usr/bin:/sbin:/bin"), ("HOME", "/root")]

/-- The files of the sandbox. -/
def files (s : Sandbox) : FileTree := s.system.files

/-- Change the files. -/
def withFiles (s : Sandbox) (files : FileTree) : Sandbox := { s with system := { s.system with files } }

/-- The number of the present directory. -/
def place (s : Sandbox) : NodeId := (s.files.find 0 s.here true).toOption.getD 0

/-- The environment of processes: what is given comes before what is usual. -/
def bindings (s : Sandbox) : Bindings :=
  let usual := standardEnvironment.filter fun (name, _) => (s.environment.lookup name).isNone
  (usual ++ s.environment).map fun (name, value) => (Octets.ofText name, Octets.ofText value)

/-! ## Times -/

/-- Microseconds of a length of time. -/
def microseconds (d : Duration) : Nat := d.nanoseconds / 1000

/-- A length of time in microseconds. -/
def ofMicroseconds (us : Nat) : Duration := ⟨us * 1000⟩

/-- Microseconds that it takes until a process has begun. -/
def startTime : Nat := 1000

/-- A bound for the steps of a run. -/
def stepLimit : Nat := 4611686018427387904

/-! ## Launching -/

/-- Load a program by its name, which is looked for in directories unless there is a slash in it. A program that may
not be run is the fault only if there is no other. -/
def find (s : Sandbox) (args : List Octets) : Except OsError (String × List Octets) :=
  let name := args.headD []
  let loaded (path : Octets) : Except OsError (String × List Octets) :=
    System.load s.files s.place System.interpreterDepth path args
  if name.isEmpty then .error .noSuchFile
  else if name.contains '/' then loaded name
  else if nameLimit < name.length then .error .nameTooLong
  else
    let roads := (s.bindings.lookup "PATH".toList).getD "/bin:/usr/bin".toList
    let paths := Act.pathEntries roads name
    let rec go : Option OsError → List Octets → Except OsError (String × List Octets)
      | e, [] => .error (e.getD .noSuchFile)
      | e, path :: rest =>
        match loaded path with
        | .ok found => .ok found
        | .error met =>
          if met = .permission then go (some met) rest
          else if met = .noSuchFile || met = .notADirectory then go e rest
          else .error met
    go none paths

/-- The number of the process that has launched all others. -/
def launcherId : Nat := 1

/-- Add a new process to the system; its number and the captured texts. -/
def enter (s : Sandbox) (request : ProcessRequest) (program : Program) : Nat × Nat × Nat × System :=
  let system := s.system
  let channel := system.channels.size
  let output := system.captures.size
  let error := if request.mergeStderr then output else output + 1
  let first := system.descriptions.size
  let id := system.nextId
  let m : Member :=
    { id, parent := launcherId, group := id, session := launcherId, here := s.place
      descriptors := (List.range 3).map fun n => { number := n, description := first + n }
      stage := .ready (system.clock + startTime) program }
  let descriptions := system.descriptions.push { target := .source channel, reads := true }
    |>.push { target := .capture output, writes := true } |>.push { target := .capture error, writes := true }
  (id, output, error, { system with
    channels := system.channels.push (.ofOctets (Octets.ofBytes request.input))
    captures := (system.captures.push []).push []
    descriptions, nextId := id + 1, members := system.members ++ [m] })

/-- How a process ended, if it did. -/
def ended? (system : System) (id : Nat) : Option WaitStatus :=
  match system.member? id with
  | some { stage := .ended status, .. } => some status
  | _ => none

/-- The text that has been captured. -/
def captured (system : System) (n : Nat) : String := Octets.text ((system.captures[n]?).getD []).reverse.flatten

/-- The status of a process that has ended. -/
def exitStatus : WaitStatus → ExitStatus
  | .exited n => .code n
  | .killed n => .signal n
  | .stopped n => .signal n

/-- Run the system until a process has ended and nobody can write to captured texts, or for a limited time. -/
def carryOn (system : System) (id output error : Nat) (limit : Option Duration) : System :=
  let isOver (system : System) : Bool :=
    (ended? system id).isSome && !system.isHeld output && !system.isHeld error
  system.run library (limit.map fun d => system.clock + microseconds d) isOver stepLimit

/-- Forget a process. -/
def forget (system : System) (id : Nat) : System := { system with members := system.members.filter (·.id ≠ id) }

/-- Run a process that has been loaded. After a kill it is waited for the captured texts no longer than a grace. -/
def runLoaded (s : Sandbox) (request : ProcessRequest) (grace : Duration) (program : Program) :
    Capture × Sandbox :=
  let (id, output, error, system) := s.enter request program
  let start := system.clock
  let system := carryOn system id output error request.limit
  let isFree := !system.isHeld output && !system.isHeld error
  let finish (outcome : RunOutcome) (elapsed : Nat) (system : System) : Capture × Sandbox :=
    ({ stdout := captured system output, stderr := if request.mergeStderr then "" else captured system error
       outcome, elapsed := ofMicroseconds elapsed }, { s with system := forget system id })
  match ended? system id, isFree with
  | some status, true => finish (.finished (exitStatus status)) (system.clock - start) system
  | _, _ =>
    let elapsed := system.clock - start
    let killed := system.signalAll (fun m => m.group = id || m.id = id) 9
    finish .timedOut elapsed (carryOn killed id output error (some grace))

/-- A word of a command line that cannot be handed over. -/
def holdsNul (request : ProcessRequest) : Bool := request.commandLine.any fun word => word.toList.contains '\x00'

/-- Launch a process and run it to its end. -/
def launch (s : Sandbox) (request : ProcessRequest) (grace : Duration) :
    Except OsError Capture × Sandbox :=
  if holdsNul request then (.error .nulInWord, s)
  else
    match s.find (request.commandLine.map Octets.ofText) with
    | .error e => (.error e, s)
    | .ok (name, args) =>
      let (capture, s) := s.runLoaded request grace (library name args s.bindings)
      (.ok capture, s)

/-- Run a process under a runner. Every attempt of a launch goes the same way, because nothing changes in
between; a launch that would be tried for ever ends with its first failure. -/
def runProcess (s : Sandbox) (r : ProcessRunner) (request : ProcessRequest) :
    Except DiagnosticError ProcessOutput × List RetryNotice × Sandbox :=
  let (attempt, s) := s.launch request r.grace
  let run := r.report request (r.sameAttempts attempt)
  let result :=
    match run.result, attempt with
    | some result, _ => result
    | none, .error cause => .error (.retriesExhausted request.program (.ofNat run.attempts) cause)
    | none, .ok capture => .ok (ProcessOutput.ofCapture capture)
  (result, run.notices, s)

end Sandbox

end Diagnostics
