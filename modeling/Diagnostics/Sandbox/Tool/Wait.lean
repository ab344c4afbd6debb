import Diagnostics.Sandbox.Format
import Diagnostics.Sandbox.Shell.Job
import Diagnostics.Sandbox.Tool.Basic

/-!
# Tools that wait

The tool that sleeps, and the tool that runs a command for a limited time.
-/

namespace Diagnostics.Sandbox

/-- Microseconds of a second. -/
def second : Nat := 1000000

/-- Units of intervals, in seconds. -/
def intervalUnits : List (String × Nat) := [("", 1), ("s", 1), ("m", 60), ("h", 3600), ("d", 86400)]

/-- An interval in microseconds; none is without end. -/
def interval? (cs : Octets) : Option (Option Nat) := do
  let (x, rest) ← takeReal cs
  let (_, unit) ← intervalUnits.find? fun (name, _) => name.toList = rest
  match x with
  | .fraction negative num den =>
    if negative && num ≠ 0 then none else some (some ((num * unit * second + den - 1) / den))
  | .unbounded false => some none
  | _ => none

namespace Work

/-- Sleep without end. -/
def sleepOn : Nat → Work Unit
  | 0 => pure ()
  | fuel + 1 => do
    let _ ← ask (.sleep (second * 86400 * 365))
    sleepOn fuel

/-- Sleep as long as all intervals together. -/
def sleep (args : List Octets) : Work Nat := do
  let (_, args) ← readOptions [] args
  if args.isEmpty then missingOperand
  let intervals ← args.mapM fun arg => do
    match interval? arg with
    | some i => pure i
    | none => do
      complain ("invalid time interval ".toList ++ quoteWord arg)
      modify fun t => { t with status := 1 }
      pure (some 0)
  if (← status) ≠ 0 then pointToHelp
  if intervals.any (·.isNone) then sleepOn Task.moveLimit
  else let _ ← ask (.sleep ((intervals.filterMap id).foldl (· + ·) 0))
  pure 0

/-! ## Commands of other programs -/

/-- Directories in which programs are looked for. -/
def roads : Work (List Octets) := do
  let path := ((← get).environment.lookup "PATH".toList).getD "/bin:/usr/bin".toList
  pure ((String.ofList path).splitOn ":" |>.map String.toList)

/-- Become the program at the first of some paths at which one can be run. -/
def tryPaths (args : List Octets) (environment : Bindings) : List Octets → OsError → Work OsError
  | [], e => pure e
  | path :: rest, e => do
    let met : OsError ← ask (.execute path args environment)
    let met : OsError ← if met = .execFormat then
        ask (.execute "/bin/sh".toList ("/bin/sh".toList :: path :: args.drop 1) environment) else pure met
    if met = .noSuchFile || met = .notADirectory then tryPaths args environment rest e
    else if met = .permission then tryPaths args environment rest met
    else pure met

/-- Become a program; what is wrong if that cannot be done. -/
def become (args : List Octets) (environment : Bindings) : Work OsError := do
  let name := args.headD []
  if name.isEmpty then pure .noSuchFile
  else if name.contains '/' then tryPaths args environment [name] .noSuchFile
  else
    let paths := (← roads).map fun dir => if dir.isEmpty then name else dir ++ '/' :: name
    tryPaths args environment paths .noSuchFile

/-- Become a program, or say why that cannot be done and end. -/
def becomeOrFail (verb : String) (args : List Octets) (environment : Bindings) : Work α := do
  let e ← become args environment
  complain (verb.toList ++ quoteWord (args.headD []) ++ ": ".toList ++ e.words.toList)
  throw (if e = .noSuchFile then 127 else 126)

/-! ## Limited time -/

/-- Wait until a child has ended, or until a time has come. -/
def waitUntil (child : Nat) (deadline : Option Nat) : Nat → Work (Option WaitStatus)
  | 0 => pure none
  | fuel + 1 => do
    match ← ask (.wait (.process child) false) with
    | .ok (some (_, status)) => pure (some status)
    | _ => do
      let now : Nat ← ask .clock
      let left := deadline.map (· - now)
      if left = some 0 then pure none
      else
        let _ ← ask (.sleep (left.getD (second * 86400)))
        waitUntil child deadline fuel

/-- Send a signal to a child, and to the group if it is the tool's own. -/
def stopChild (child signal : Nat) (ownGroup : Bool) : Work Unit := do
  let _ ← ask (.kill child signal)
  if ownGroup then
    let _ ← ask (.react signal .ignore)
    let _ ← ask (.kill 0 signal)
    if signal ≠ 9 && signal ≠ 18 then
      let _ ← ask (.kill child 18)
      let _ ← ask (.kill 0 18)

/-- A signal by its name or number. -/
def signalArgument (name : Octets) : Work Nat :=
  match signalOf? (if "SIG".toList.isPrefixOf name then name.drop 3 else name) with
  | some n => pure n
  | none => misuse (quoteWord name ++ ": invalid signal".toList)

/-- Run a command for a limited time. -/
def timeout (args : List Octets) : Work Nat := do
  let (settings, args) ← readLeadingOptions
    [⟨some 'k', "kill-after", .word⟩, ⟨some 's', "signal", .word⟩, ⟨some 'v', "verbose", .nothing⟩,
      ⟨none, "foreground", .nothing⟩, ⟨none, "preserve-status", .nothing⟩] args
  let intervalOf (cs : Octets) : Work (Option Nat) :=
    match interval? cs with
    | some i => pure (i.filter (· ≠ 0))
    | none => misuse ("invalid time interval ".toList ++ quoteWord cs)
  let killAfter ← match settings.last? "kill-after" with
    | some cs => intervalOf cs
    | none => pure none
  let signal ← match settings.last? "signal" with
    | some name => signalArgument name
    | none => pure 15
  match args with
  | [] => pointToHelp
  | [_] => pointToHelp
  | limit :: command => do
    let limit ← intervalOf limit
    let ownGroup := !settings.has "foreground"
    if ownGroup then let _ ← ask (.newGroup 0 0)
    let _ ← ask (.react 17 .catch)
    let t ← get
    let running : Work Nat := do
      let _ ← ask (.react 17 .normal)
      becomeOrFail "failed to run command " command t.environment
    let child ← Task.start (Task.program running t id)
    let say (n : Nat) : Work Unit := do
      if settings.has "verbose" then
        complain ("sending signal ".toList ++ signalName n ++ " to command ".toList ++ quoteWord (command.headD []))
    let now : Nat ← ask .clock
    let ended ← waitUntil child (limit.map (now + ·)) Task.moveLimit
    let late ← match ended with
      | some _ => pure none
      | none => do
        say signal
        stopChild child signal ownGroup
        let now : Nat ← ask .clock
        match ← waitUntil child (killAfter.map (now + ·)) Task.moveLimit with
        | some status => pure (some status)
        | none => do
          say 9
          stopChild child 9 ownGroup
          waitUntil child none Task.moveLimit
    match ended, late with
    | some (.killed n), _ => do
      let me : Identity ← ask .identity
      let _ ← ask (.react n .normal)
      let _ ← ask (.kill me.process n)
      pure (128 + n)
    | some status, _ => pure status.code
    | none, some (.killed 9) => pure 137
    | none, some status => pure (if settings.has "preserve-status" then status.code else 124)
    | none, none => pure 124

end Work

end Diagnostics.Sandbox
