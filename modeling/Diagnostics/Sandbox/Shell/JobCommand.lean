import Diagnostics.Sandbox.Shell.Job
import Diagnostics.Sandbox.Shell.Option

/-!
# Commands for children and signals

Waiting for children, showing them, sending signals, and what is to be done when a signal comes.
-/

namespace Diagnostics.Sandbox

namespace Act

/-! ## Jobs -/

/-- The job that a word with a percent sign means. -/
def jobOf (name : Octets) : Act Job := do
  let s ← get
  let unknown : Act Job := failWith ("No such job: ".toList ++ name)
  match name.drop 1 with
  | [] => match s.jobs with
    | j :: _ => pure j
    | [] => fail "No current job"
  | ['+'] => match s.jobs with
    | j :: _ => pure j
    | [] => fail "No current job"
  | ['%'] => match s.jobs with
    | j :: _ => pure j
    | [] => fail "No current job"
  | ['-'] => match s.jobs with
    | _ :: j :: _ => pure j
    | _ => fail "No previous job"
  | cs =>
    if cs.all Char.isDigit then
      match s.jobs.find? (·.number == (takeNumeral 10 0 cs).1) with
      | some j => pure j
      | none => unknown
    else unknown

/-- The state of a job in words. -/
def jobWords (j : Job) : Octets :=
  if !j.isDone then "Running".toList
  else
    match j.processes.getLast?.bind (·.2) with
    | some (.killed n) => signalWords n
    | some (.exited n) => if n = 0 then "Done".toList else "Done(".toList ++ numeral n ++ [')']
    | _ => "Done".toList

/-- Show a job. -/
def showJob (sign : Char) (long : Bool) (j : Job) : Act Unit := do
  let number := '[' :: numeral j.number ++ [']']
  let head := number ++ ' ' :: sign :: [' ']
  let first := if long then (j.processes.head?.map fun p => numeral p.1 ++ [' ']).getD [] else []
  let line := head ++ first ++ jobWords j
  let fill := List.replicate (max 1 (33 - line.length)) ' '
  print (line ++ fill)
  if long then
    (j.processes.drop 1).forM fun (p, _) => do
      let more := List.replicate head.length ' ' ++ numeral p ++ [' ']
      print (" |\n".toList ++ more ++ List.replicate (33 - (more.length)) ' ')
  else (j.processes.drop 1).forM fun _ => print " | ".toList
  print ['\n']

/-- Show all jobs. -/
def jobsCommand (args : List Octets) : Act Nat := do
  let (options, args) ← takeOptions "lp" args
  let long := options.any (·.1 == 'l')
  let short := options.any (·.1 == 'p')
  let sign (s : Shell) (j : Job) : Char :=
    match s.jobs with
    | a :: rest =>
      if a.number = j.number then '+' else if (rest.head?.map (·.number)) = some j.number then '-' else ' '
    | [] => ' '
  let show1 (s : Shell) (j : Job) : Act Unit :=
    if short then print ((j.processes.head?.map fun p => numeral p.1).getD [] ++ ['\n'])
    else showJob (sign s j) long j
  if args.isEmpty then
    reap 1000
    (← get).jobs.forM fun j => do
      show1 (← get) j
      if j.isDone then modify fun s => { s with jobs := s.jobs.filter fun k => k.number ≠ j.number }
  else
    args.forM fun name => do
      let j ← jobOf name
      show1 (← get) j
  pure 0

/-- Bring jobs to the front or to the background, which needs a terminal. -/
def foregroundCommand (args : List Octets) : Act Nat := do
  let name := args.headD []
  let _ ← jobOf (if name.isEmpty then ['%'] else name)
  failWith ("job ".toList ++ (if name.isEmpty then "(null)".toList else name) ++
    " not created under job control".toList)

/-! ## Waiting -/

/-- Take in the signals that have come. An interrupt stops a shell that talks to somebody in what it does, unless
something else is to be done for it. -/
def takeSignals : Act Unit := do
  let s ← get
  if s.converses || s.traps.any fun (n, action) => n ≠ 0 && !action.isEmpty then
    let came : List Nat ← ask .signals
    unless came.isEmpty do
      let isNew (n : Nat) : Bool := !s.pending.contains n && (s.traps.lookup n).isSome
      set { s with pending := s.pending ++ came.filter isNew }
      if came.contains 2 && s.converses && (s.traps.lookup 2).isNone then
        modify fun s => { s with status := 130 }
        throw .interrupted

/-- Wait until a condition holds of the shell, or a signal comes; the signal. -/
def waitUntil (isEnough : Shell → Bool) : Nat → Act (Option Nat)
  | 0 => pure none
  | fuel + 1 => do
    if isEnough (← get) then pure none
    else
      match ← ask (.wait .any true) with
      | .ok (some (process, status)) => do
        noteEnd process status
        waitUntil isEnough fuel
      | .ok none => pure none
      | .error e =>
        if e = interruptedCall then
          takeSignals
          match (← get).pending with
          | n :: _ => pure (some n)
          | [] => waitUntil isEnough fuel
        else pure none

/-- Wait for one job. -/
def waitForJob (number : Nat) : Act Nat := do
  let isDone (s : Shell) : Bool := (s.jobs.find? (·.number == number)).all Job.isDone
  let before := (← get).jobs.find? (·.number == number)
  match ← waitUntil isDone waitLimit with
  | some n => pure (128 + n)
  | none => do
    match (← get).jobs.find? (·.number == number) with
    | none => pure 127
    | some j => do
      if before.any fun b => !b.isDone then
        j.processes.forM fun (_, status) =>
          match status with
          | some status => sayEnd status
          | none => pure ()
      modify fun s => { s with jobs := s.jobs.map fun k => if k.number = number then { k with isWaited := true } else k }
      pure j.status

/-- Wait for children. -/
def waitCommand (args : List Octets) : Act Nat := do
  let (_, args) ← takeOptions "" args
  if args.isEmpty then
    match ← waitUntil (fun s => s.jobs.all Job.isDone) waitLimit with
    | some n => pure (128 + n)
    | none => do
      modify fun s => { s with jobs := s.jobs.map fun j => { j with isWaited := true } }
      pure 0
  else
    args.foldlM (fun (_ : Nat) name => do
      if name.head? = some '%' then waitForJob (← jobOf name).number
      else
        let process ← count name
        match (← get).jobs.find? (fun j => j.lastProcess = process) with
        | some j => waitForJob j.number
        | none => pure 127) 127

/-! ## Signals -/

/-- How a signal is sent. -/
def killUsage : String :=
  "Usage: kill [-s sigspec | -signum | -sigspec] [pid | job]... or\nkill -l [exitstatus]"

/-- A process that a word means; less than zero is a group. -/
def targetOf (name : Octets) : Act Int := do
  if name.head? = some '%' then
    let j ← jobOf name
    pure (-(((j.processes.head?.map (·.1)).getD 0 : Nat) : Int))
  else if name.head? = some '-' then pure (-((← count (name.drop 1) : Nat) : Int))
  else pure ((← count name : Nat) : Int)

/-- Send a signal to processes. -/
def sendSignal (signal : Nat) (targets : List Octets) : Act Nat := do
  if targets.isEmpty then fail killUsage
  let results ← targets.mapM fun name => do
    match ← ask (.kill (← targetOf name) signal) with
    | .ok _ => pure 0
    | .error e => do
      complain (e.words.toList ++ ['\n'])
      pure 1
  pure (results.foldl max 0)

/-- Send signals, or list their names. -/
def killCommand (args : List Octets) : Act Nat := do
  match args with
  | [] => fail killUsage
  | ('-' :: name) :: rest =>
    match if name.isEmpty then none else signalOf? name with
    | some n => sendSignal n rest
    | none => do
      let (options, rest) ← takeOptions "ls:" args
      if options.any (·.1 == 'l') then
        match rest with
        | [] => do
          print "0\n".toList
          ((List.range signalCount).drop 1).forM fun n => print (signalName n ++ ['\n'])
          pure 0
        | arg :: _ => do
          let n ← count arg
          let n := if 128 < n then n - 128 else n
          if 0 < n && n < signalCount then
            print (signalName n ++ ['\n'])
            pure 0
          else failWith ("invalid signal number or exit status: ".toList ++ arg)
      else
        match options.getLast? with
        | some (_, name) =>
          match signalOf? name with
          | some n => sendSignal n rest
          | none => failWith ("invalid signal number or name: ".toList ++ name)
        | none => sendSignal 15 rest
  | rest => sendSignal 15 rest

/-- Do something when signals come, or nothing, or what is usual. A signal that was ignored before the shell had a say
in it goes on being ignored. -/
def setTrap (action : Option Octets) (n : Nat) : Act Unit := do
  let old := (← get).traps.lookup n
  modify fun s =>
    let rest := s.traps.filter (·.1 ≠ n)
    { s with traps := match action with
        | some action => (n, action) :: rest
        | none => rest }
  if n ≠ 0 then
    let before : Reaction ← ask (.react n (match action with
      | none => .normal
      | some [] => .ignore
      | some _ => .catch))
    let talks := (← get).converses && conversationSignals.contains n
    if before = .ignore && old ≠ some [] && !talks then
      let _ ← ask (.react n .ignore)
    if talks then beginConversation

/-- Set traps, or show them. -/
def trapCommand (args : List Octets) : Act Nat := do
  let (_, args) ← takeOptions "" args
  match args with
  | [] => do
    let s ← get
    (List.range signalCount).forM fun n =>
      match s.traps.lookup n with
      | some action => print ("trap -- ".toList ++ quoteText action ++ ' ' :: signalName n ++ ['\n'])
      | none => pure ()
    pure 0
  | first :: rest => do
    let isNumber := !first.isEmpty && first.all Char.isDigit && (signalOf? first).isSome
    let (action, names) := if rest.isEmpty || isNumber then (none, args) else (some first, rest)
    let action := if action = some ['-'] then none else action
    let rec each : List Octets → Act Nat
      | [] => pure 0
      | name :: rest => do
        match signalOf? name with
        | none => do
          let _ ← write 2 ("trap: ".toList ++ name ++ ": bad trap\n".toList)
          pure 1
        | some n => do
          setTrap action n
          each rest
    each names

end Act

end Diagnostics.Sandbox
