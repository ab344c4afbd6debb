import Diagnostics.Sandbox.Script.Parse
import Diagnostics.Sandbox.Shell.Sum
import Diagnostics.Sandbox.Task

/-!
# The state of a shell

Variables, functions, options and children of a shell, and how it speaks: what its own commands print is kept and
written when the command has ended, and complaints are written at once.
-/

namespace Diagnostics.Sandbox

/-! ## Types -/

/-- A variable, which may have no value although something is known of it. -/
structure Variable where
  value : Option Octets := none
  isExported : Bool := false
  isFixed : Bool := false

/-- The children that run one pipeline, and what is known of their ends. -/
structure Job where
  number : Nat
  processes : List (Nat × Option WaitStatus)
  hasChanged : Bool := true
  isWaited : Bool := false

/-- What a function call or a command with assignments gives back at its end: variables, and options if they
were set aside. -/
structure LocalFrame where
  settings : List (Octets × Option Variable) := []
  options : Option (List Char) := none

/-- Why a shell stops doing what it does: to leave loops, to begin the next round of one, to leave a function
with its status, because something went wrong, because it was interrupted, or to end. -/
inductive Stop
  | leaveLoop (count : Nat)
  | nextRound (count : Nat)
  | leaveFunction
  | failure
  | interrupted
  | exit
  | finish

/-- A shell. Variables stand in the order in which they came to be; the option place is where reading options
goes on, an index of a word and a place in it. -/
structure Shell where
  name : Octets
  settings : List (Octets × Variable) := []
  functions : List (Octets × Command) := []
  aliases : List (Octets × Octets) := []
  options : List Char := []
  parameters : List Octets := []
  optionPlace : Nat × Option Nat := (1, none)
  status : Nat := 0
  substitutionStatus : Nat := 0
  savedStatus : Option Nat := none
  root : Nat := 0
  isCopy : Bool := false
  lastBackground : Nat := 0
  jobs : List Job := []
  traps : List (Nat × Octets) := []
  pending : List Nat := []
  documents : Array Word := #[]
  locals : List LocalFrame := []
  commandName : Option Octets := none
  line : Nat := 1
  loops : Nat := 0
  functionDepth : Nat := 0
  isTracing : Bool := false
  complaintsTo : Nat := 2
  printed : List Octets := []
  cannotPrint : Bool := false
  found : List (Octets × Octets) := []
  here : Octets := []
  limits : List (Char × Nat) := []

namespace Shell

/-- The value of a variable. -/
def value? (s : Shell) (name : Octets) : Option Octets := (s.settings.lookup name).bind (·.value)

/-- An option is set. -/
def has (s : Shell) (option : Char) : Bool := s.options.contains option

/-- The shell talks to somebody, and is no copy of one that does. -/
def converses (s : Shell) : Bool := s.has 'i' && !s.isCopy

/-- Put a variable in its place, or at the end. -/
def putVariable (s : Shell) (name : Octets) (v : Variable) : Shell :=
  if s.settings.any (·.1 == name) then
    { s with settings := s.settings.map fun (n, old) => if n = name then (n, v) else (n, old) }
  else { s with settings := s.settings ++ [(name, v)] }

/-- Take a variable away. -/
def dropVariable (s : Shell) (name : Octets) : Shell :=
  { s with settings := s.settings.filter (·.1 ≠ name) }

/-- The bucket of a variable in the table that decides on the order of the environment. -/
def bucket (name : Octets) : Nat :=
  (((name.head?.map Char.toNat).getD 0) * 16 + name.foldl (fun n c => n + c.toNat) 0) % 39

/-- The environment for other programs. -/
def environment (s : Shell) : Bindings :=
  let exported := s.settings.filterMap fun (name, v) =>
    match v with
    | { value := some value, isExported := true, .. } => some (name, value)
    | _ => none
  exported.mergeSort fun a b => bucket a.1 ≤ bucket b.1

/-- The value of a variable as a number. -/
def numberOf (s : Shell) (name : Octets) : Except SumFault Int64 :=
  let text := (s.value? name).getD []
  match variableNumber? text with
  | some n => .ok (Int64.ofInt n)
  | none => .error (.illegal text)

end Shell

/-- What a shell does. -/
abbrev Act := Task Shell Stop

/-- A number as octets. -/
def numeral (n : Nat) : Octets := (toString n).toList

/-- A whole number as octets. -/
def signedNumeral (n : Int) : Octets := (toString n).toList

namespace Act

/-! ## Asking the system -/

/-- Ask the system. -/
def ask (c : Call) : Act c.Answer := Task.ask c

/-- A bound for what a shell does without end. -/
def endless : Nat := 1099511627776

/-- Write a text to a descriptor. -/
def write (descriptor : Nat) (cs : Octets) : Act (Option OsError) := Task.writeAll descriptor cs

/-! ## Speaking -/

/-- Print, when the command has ended. -/
def print (cs : Octets) : Act Unit := modify fun s => { s with printed := cs :: s.printed }

/-- Print a text. -/
def printText (text : String) : Act Unit := print text.toList

/-- Write what has been printed. -/
def flush : Act Unit := do
  let s ← get
  unless s.printed.isEmpty do
    set { s with printed := [] }
    if (← write 1 s.printed.reverse.flatten).isSome then modify fun s => { s with cannotPrint := true }

/-- Complain, with the name of the shell and the line, and with the name of the command if it is one of the
shell's own. -/
def complain (text : Octets) : Act Unit := do
  let s ← get
  let place := s.name ++ ": ".toList ++ numeral s.line ++ ": ".toList
  let command := match s.commandName with
    | some name => name ++ ": ".toList
    | none => []
  let _ ← write 2 (place ++ command ++ text ++ ['\n'])

/-- Complain and give up. -/
def failWith (text : Octets) : Act α := do
  complain text
  modify fun s => { s with status := 2 }
  flush
  throw .failure

/-- Complain and give up. -/
def fail (text : String) : Act α := failWith text.toList

/-! ## Variables -/

/-- Names of variables whose change means more. -/
def noteChange (name : Octets) (value : Option Octets) : Act Unit := modify fun s =>
  if name = "PATH".toList then { s with found := [] }
  else if name = "OPTIND".toList then
    { s with optionPlace := (((value.bind (wholeNumber? (some 10))).getD 1).toNat, none) }
  else s

/-- Give a variable a value. -/
def assign (name : Octets) (value : Octets) (exports : Bool) : Act Unit := do
  let s ← get
  let old := (s.settings.lookup name).getD {}
  if old.isFixed then failWith (name ++ ": is read only".toList)
  set (s.putVariable name
    { value := some value, isExported := old.isExported || exports || s.has 'a', isFixed := false })
  noteChange name (some value)

/-- Take a variable away. -/
def unassign (name : Octets) : Act Unit := do
  let s ← get
  if ((s.settings.lookup name).getD {}).isFixed then failWith (name ++ ": is read only".toList)
  set (s.dropVariable name)
  noteChange name none

/-- Give a value to what may be no name at all. -/
def assignChecked (name : Octets) (value : Octets) (exports : Bool) : Act Unit := do
  let bare := name.takeWhile (· != '=')
  unless isName bare do failWith (bare ++ ": bad variable name".toList)
  assign name value exports

/-- Remember a variable, so that it comes back at the end of a function or a command. -/
def keep (name : Octets) : Act Unit := modify fun s =>
  match s.locals with
  | [] => s
  | frame :: rest =>
    if frame.settings.any (·.1 == name) then s
    else { s with locals := { frame with settings := (name, s.settings.lookup name) :: frame.settings } :: rest }

/-- Begin to remember variables. -/
def pushLocals : Act Unit := modify fun s => { s with locals := {} :: s.locals }

/-- Give back the variables that were remembered last. -/
def popLocals : Act Unit := do
  let s ← get
  match s.locals with
  | [] => pure ()
  | frame :: rest =>
    let s := frame.settings.foldl (fun s (name, v) =>
      match v with
      | some v => s.putVariable name v
      | none => s.dropVariable name) { s with locals := rest }
    set { s with options := frame.options.getD s.options }
    frame.settings.forM fun (name, v) => noteChange name (v.bind (·.value))

/-- Give back variables until so many frames are left. -/
def popLocalsTo (depth : Nat) : Nat → Act Unit
  | 0 => pure ()
  | fuel + 1 => do
    if depth < (← get).locals.length then
      popLocals
      popLocalsTo depth fuel

end Act

end Diagnostics.Sandbox
