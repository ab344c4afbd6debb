import Diagnostics.Sandbox.Tree

/-!
# Tasks

A program is a tree: it ends with a status, or calls the system and goes on with the answer, or starts a copy
of itself that goes its own way. Programs are written as tasks, which keep a state of their own, may stop with a
reason, and are put one after the other.
-/

namespace Diagnostics.Sandbox

/-! ## Calls -/

/-- How a file is opened. -/
structure OpenMode where
  reads : Bool := false
  writes : Bool := false
  creates : Bool := false
  exclusive : Bool := false
  empties : Bool := false
  appends : Bool := false
  directory : Bool := false
  deriving DecidableEq

/-- What a process does when a signal comes. -/
inductive Reaction
  | normal
  | ignore
  | catch
  deriving DecidableEq

/-- How a process ended, or that it was stopped. -/
inductive WaitStatus
  | exited (status : Nat)
  | killed (signal : Nat)
  | stopped (signal : Nat)
  deriving DecidableEq

/-- Whose end is waited for. -/
inductive WaitFor
  | any
  | process (id : Nat)
  deriving DecidableEq

/-- What is known about a file. -/
structure FileFacts where
  id : NodeId
  content : Content
  mode : Nat
  size : Nat
  names : Nat
  changed : Nat

/-- Numbers of a process. -/
structure Identity where
  process : Nat
  parent : Nat
  group : Nat
  session : Nat

/-- Programs get settings of the environment as pairs. -/
abbrev Bindings := List (Octets × Octets)

/-- What a program may ask of the system. -/
inductive Call
  | read (descriptor count : Nat)
  | write (descriptor : Nat) (octets : Octets)
  | seek (descriptor : Nat) (position : Int) (whence : Nat)
  | openFile (path : Octets) (mode : OpenMode) (permissions : Nat)
  | close (descriptor : Nat)
  | duplicate (source target : Nat)
  | duplicateFrom (source least : Nat)
  | pipe
  | look (path : Octets) (follow : Bool)
  | lookDescriptor (descriptor : Nat)
  | names (path : Octets)
  | readLink (path : Octets)
  | makeDirectory (path : Octets) (permissions : Nat)
  | removeDirectory (path : Octets)
  | unlink (path : Octets)
  | move (source target : Octets)
  | link (source target : Octets)
  | symbolicLink (target path : Octets)
  | makeFifo (path : Octets) (permissions : Nat)
  | setMode (path : Octets) (mode : Nat)
  | setTime (path : Octets) (time : Nat)
  | resize (path : Octets) (size : Nat)
  | resizeDescriptor (descriptor size : Nat)
  | changeDirectory (path : Octets)
  | whereAmI
  | setMask (mask : Nat)
  | identity
  | kill (process : Int) (signal : Nat)
  | react (signal : Nat) (reaction : Reaction)
  | signals
  | wait (whose : WaitFor) (blocking : Bool)
  | sleep (microseconds : Nat)
  | clock
  | execute (path : Octets) (args : List Octets) (environment : Bindings)
  | newSession
  | newGroup (process group : Nat)
  | work (microseconds : Nat)

/-- What the system answers. -/
def Call.Answer : Call → Type
  | .read .. => Except OsError Octets
  | .write .. => Except OsError Nat
  | .seek .. => Except OsError Nat
  | .openFile .. => Except OsError Nat
  | .close _ => Except OsError Unit
  | .duplicate .. => Except OsError Unit
  | .duplicateFrom .. => Except OsError Nat
  | .pipe => Nat × Nat
  | .look .. => Except OsError FileFacts
  | .lookDescriptor _ => Except OsError FileFacts
  | .names _ => Except OsError (List Octets)
  | .readLink _ => Except OsError Octets
  | .makeDirectory .. => Except OsError Unit
  | .removeDirectory _ => Except OsError Unit
  | .unlink _ => Except OsError Unit
  | .move .. => Except OsError Unit
  | .link .. => Except OsError Unit
  | .symbolicLink .. => Except OsError Unit
  | .makeFifo .. => Except OsError Unit
  | .setMode .. => Except OsError Unit
  | .setTime .. => Except OsError Unit
  | .resize .. => Except OsError Unit
  | .resizeDescriptor .. => Except OsError Unit
  | .changeDirectory _ => Except OsError Unit
  | .whereAmI => Except OsError Octets
  | .setMask _ => Nat
  | .identity => Identity
  | .kill .. => Except OsError Unit
  | .react .. => Reaction
  | .signals => List Nat
  | .wait .. => Except OsError (Option (Nat × WaitStatus))
  | .sleep _ => Bool
  | .clock => Nat
  | .execute .. => OsError
  | .newSession => Except OsError Nat
  | .newGroup .. => Except OsError Unit
  | .work _ => Unit

/-! ## Programs -/

/-- A program. A copy that is started is told nothing; the one that starts it is told the copy's number. -/
inductive Program
  | exit (status : Nat)
  | call (c : Call) (next : c.Answer → Program)
  | fork (child : Program) (next : Nat → Program)

/-- A piece of a program with a state, which gives a result or stops with a reason. -/
def Task (σ ε α : Type) := σ → (Except ε α → σ → Program) → Program

namespace Task

instance : Monad (Task σ ε) where
  pure a := fun s k => k (.ok a) s
  bind m f := fun s k => m s fun r s =>
    match r with
    | .ok a => f a s k
    | .error e => k (.error e) s

instance : MonadStateOf σ (Task σ ε) where
  get := fun s k => k (.ok s) s
  set s := fun _ k => k (.ok ()) s
  modifyGet f := fun s k => let (a, s) := f s; k (.ok a) s

instance : MonadExceptOf ε (Task σ ε) where
  throw e := fun s k => k (.error e) s
  tryCatch m handle := fun s k => m s fun r s =>
    match r with
    | .ok a => k (.ok a) s
    | .error e => handle e s k

/-- Ask the system. -/
def ask (c : Call) : Task σ ε c.Answer := fun s k => .call c fun a => k (.ok a) s

/-- Start a program as a copy; its number. -/
def start (child : Program) : Task σ ε Nat := fun s k => .fork child fun id => k (.ok id) s

/-- End the program here and now. -/
def finish (status : Nat) : Task σ ε α := fun _ _ => .exit status

/-- Carry out a task and look at how it went. -/
def attempt (m : Task σ ε α) : Task σ ε (Except ε α) := fun s k => m s fun r s => k (.ok r) s

/-- Carry out a task, and then another one however the first went. -/
def thenAlways (m : Task σ ε α) (after : Task σ ε Unit) : Task σ ε α := do
  let r ← m.attempt
  after
  match r with
  | .ok a => pure a
  | .error e => throw e

/-! ## Reading and writing -/

/-- A bound for the number of calls that move one text. -/
def moveLimit : Nat := 1099511627776

/-- Write a text to a descriptor; what is wrong if that fails. -/
def writeWith (descriptor : Nat) : Nat → Octets → Task σ ε (Option OsError)
  | 0, _ => pure none
  | _, [] => pure none
  | fuel + 1, cs => do
    match ← ask (.write descriptor cs) with
    | .ok n => writeWith descriptor fuel (cs.drop n)
    | .error e => if e = interruptedCall then writeWith descriptor fuel cs else pure (some e)

/-- Write a text to a descriptor; what is wrong if that fails. -/
def writeAll (descriptor : Nat) (cs : Octets) : Task σ ε (Option OsError) := writeWith descriptor moveLimit cs

/-- So much is read at once. -/
def readChunk : Nat := 32768

/-- Read from a descriptor up to the end. -/
def readWith (descriptor : Nat) : Nat → List Octets → Task σ ε (Except OsError Octets)
  | 0, seen => pure (.ok seen.reverse.flatten)
  | fuel + 1, seen => do
    match ← ask (.read descriptor readChunk) with
    | .ok [] => pure (.ok seen.reverse.flatten)
    | .ok cs => readWith descriptor fuel (cs :: seen)
    | .error e => if e = interruptedCall then readWith descriptor fuel seen else pure (.error e)

/-- Read from a descriptor up to the end. -/
def readAll (descriptor : Nat) : Task σ ε (Except OsError Octets) := readWith descriptor moveLimit []

/-- The program that a task is. -/
def program (m : Task σ ε Nat) (s : σ) (stopped : ε → Nat) : Program :=
  m s fun r _ =>
    match r with
    | .ok status => .exit status
    | .error e => .exit (stopped e)

end Task

end Diagnostics.Sandbox
