import Diagnostics.Sandbox.Shell.State

/-!
# Children

A shell starts copies of itself and waits for them. What is known of a child that was started in the background is
kept until somebody asks.
-/

namespace Diagnostics.Sandbox

/-! ## Signals -/

/-- Signals by their numbers, with the words for a child that one has ended. -/
def signalTable : List (Nat × String × String) :=
  [(0, "EXIT", ""), (1, "HUP", "Hangup"), (2, "INT", "Interrupt"), (3, "QUIT", "Quit"),
    (4, "ILL", "Illegal instruction"), (5, "TRAP", "Trace/breakpoint trap"), (6, "ABRT", "Aborted"),
    (7, "BUS", "Bus error"), (8, "FPE", "Floating point exception"), (9, "KILL", "Killed"),
    (10, "USR1", "User defined signal 1"), (11, "SEGV", "Segmentation fault"),
    (12, "USR2", "User defined signal 2"), (13, "PIPE", "Broken pipe"), (14, "ALRM", "Alarm clock"),
    (15, "TERM", "Terminated"), (16, "STKFLT", "Stack fault"), (17, "CHLD", "Child exited"),
    (18, "CONT", "Continued"), (19, "STOP", "Stopped (signal)"), (20, "TSTP", "Stopped"),
    (21, "TTIN", "Stopped (tty input)"), (22, "TTOU", "Stopped (tty output)"),
    (23, "URG", "Urgent I/O condition"), (24, "XCPU", "CPU time limit exceeded"),
    (25, "XFSZ", "File size limit exceeded"), (26, "VTALRM", "Virtual timer expired"),
    (27, "PROF", "Profiling timer expired"), (28, "WINCH", "Window changed"), (29, "IO", "I/O possible"),
    (30, "PWR", "Power failure"), (31, "SYS", "Bad system call")]

/-- The number of signals. -/
def signalCount : Nat := 65

/-- The name of a signal. -/
def signalName (n : Nat) : Octets :=
  match signalTable.lookup n with
  | some (name, _) => name.toList
  | none =>
    if n = 34 then "RTMIN".toList
    else if 34 < n && n ≤ 49 then "RTMIN+".toList ++ numeral (n - 34)
    else if 49 < n && n < 64 then "RTMAX-".toList ++ numeral (64 - n)
    else if n = 64 then "RTMAX".toList
    else numeral n

/-- The words for a child that a signal has ended. -/
def signalWords (n : Nat) : Octets :=
  match signalTable.lookup n with
  | some (_, words) => words.toList
  | none => if 34 ≤ n then "Real-time signal ".toList ++ numeral (n - 34) else "Unknown signal ".toList ++ numeral n

/-- The signal that a text names, by a number or by a name in letters of any case. -/
def signalOf? (cs : Octets) : Option Nat :=
  if !cs.isEmpty && cs.all Char.isDigit then
    let n := (takeNumeral 10 0 cs).1
    if n < signalCount then some n else none
  else
    let name := cs.map Char.toUpper
    (List.range signalCount).find? fun n => signalName n = name

/-! ## Ends of children -/

/-- The status of a child that has ended. -/
def WaitStatus.code : WaitStatus → Nat
  | .exited n => n
  | .killed n => n + 128
  | .stopped n => n + 128

namespace Job

/-- All processes of the job have ended. -/
def isDone (j : Job) : Bool := j.processes.all (·.2.isSome)

/-- The status of the last process. -/
def status (j : Job) : Nat := ((j.processes.getLast?.bind (·.2)).map WaitStatus.code).getD 0

/-- The process that the job is known by. -/
def lastProcess (j : Job) : Nat := (j.processes.getLast?.map (·.1)).getD 0

/-- Note the end of a process. -/
def note (j : Job) (process : Nat) (status : WaitStatus) : Job :=
  { j with processes := j.processes.map fun (p, s) => if p = process then (p, some status) else (p, s) }

/-- The process is one of the job's. -/
def owns (j : Job) (process : Nat) : Bool := j.processes.any fun (p, s) => p == process && s.isNone

end Job

namespace Act

/-- Note the end of a child that runs in the background. -/
def noteEnd (process : Nat) (status : WaitStatus) : Act Unit := modify fun s =>
  { s with jobs := s.jobs.map fun j =>
      if j.owns process then { j.note process status with hasChanged := true } else j }

/-- Say how a child was ended, if that is worth saying. -/
def sayEnd (status : WaitStatus) : Act Unit := do
  match status with
  | .killed n => unless n = 2 || n = 13 do let _ ← write 2 (signalWords n ++ ['\n'])
  | _ => pure ()

/-- A bound for the number of children that are waited for. -/
def waitLimit : Nat := 1099511627776

/-- Wait until all processes of a job have ended. -/
def waitFor : Nat → Job → Act Nat
  | 0, j => pure j.status
  | fuel + 1, j => do
    if j.isDone then pure j.status
    else
      match ← ask (.wait .any true) with
      | .ok (some (process, status)) =>
        if j.owns process then
          sayEnd status
          waitFor fuel (j.note process status)
        else
          noteEnd process status
          waitFor fuel j
      | .ok none => pure j.status
      | .error e => if e = interruptedCall then waitFor fuel j else pure j.status

/-- Note the ends of children without waiting. -/
def reap : Nat → Act Unit
  | 0 => pure ()
  | fuel + 1 => do
    match ← ask (.wait .any false) with
    | .ok (some (process, status)) => noteEnd process status; reap fuel
    | _ => pure ()

/-- The number for a new job. -/
def freeJobNumber (s : Shell) : Nat :=
  ((List.range (s.jobs.length + 1)).map (· + 1)).find? (fun n => !s.jobs.any (·.number == n)) |>.getD 1

/-- Keep a job that runs in the background. -/
def keepJob (processes : List Nat) : Act Unit := do
  modify fun s => { s with jobs := s.jobs.filter fun j => !(j.isDone && j.isWaited) }
  let s ← get
  let j : Job := { number := freeJobNumber s, processes := processes.map fun p => (p, none) }
  set { s with jobs := j :: s.jobs, lastBackground := j.lastProcess }

/-! ## Copies -/

/-- Signals from the keyboard, and the polite wish that a process should end. -/
def conversationSignals : List Nat := [2, 3, 15]

/-- A shell that talks to somebody is not ended by a signal; it gives up what it does after an interrupt. -/
def beginConversation : Act Unit := do
  conversationSignals.forM fun n => do
    if ((← get).traps.lookup n).isNone then
      let _ ← ask (.react n (if n = 2 then .catch else .ignore))

/-- A copy is no part of the conversation. -/
def leaveConversation : Act Unit := do
  conversationSignals.forM fun n => do
    if (← get).traps.lookup n ≠ some [] then
      let _ ← ask (.react n .normal)

/-- How a copy of the shell begins: traps are forgotten but for what is ignored, and a copy in the background does
not hear signals from the keyboard and reads nothing. -/
def beginCopy (background : Bool) (readsNothing : Bool) : Act Unit := do
  let s ← get
  s.traps.forM fun (n, action) => do
    unless action.isEmpty || n = 0 do let _ ← ask (.react n .normal)
  if s.converses then leaveConversation
  set { s with
    isCopy := true, jobs := [], pending := [], traps := s.traps.filter fun (_, action) => action.isEmpty }
  if background then
    let _ ← ask (.react 2 .ignore)
    let _ ← ask (.react 3 .ignore)
    if readsNothing then
      let _ ← ask (.close 0)
      let _ ← ask (.openFile "/dev/null".toList { reads := true } 0)

/-- Start a copy of the shell, which does its task and ends; its number. -/
def startCopy (background readsNothing : Bool) (task : Act Nat) : Act Nat := do
  let s ← get
  let whole : Act Nat := do
    beginCopy background readsNothing
    task
  Task.start (whole.program s fun _ => 2)

end Act

end Diagnostics.Sandbox
