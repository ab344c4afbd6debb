import Diagnostics.Sandbox.Shell.Evaluate

/-!
# Starting a shell

What a shell does with its arguments and with the environment: it is given a script as an argument, reads it from a
file, or reads it from its input.
-/

namespace Diagnostics.Sandbox

namespace Act

/-! ## Variables at the start -/

/-- Variables that every shell has. -/
def firstVariables : List (Octets × Variable) :=
  [("OPTIND", "1"), ("PS4", "+ "), ("PS2", "> "), ("PS1", "# "), ("PATH", String.ofList standardPath),
    ("IFS", " \t\n")].map fun (name, value) => (name.toList, { value := some value.toList })

/-- Variables that are not taken from the environment. -/
def ownVariables : List String := ["IFS", "OPTIND"]

/-- The path of the present directory: what the environment says, if that is right. -/
def firstDirectory : Act Octets := do
  match (← get).value? "PWD".toList with
  | some path =>
    if path.head? = some '/' then
      match ← ask (.look path true), ← ask (.look ['.'] true) with
      | .ok there, .ok here => if there.id = here.id then pure path else systemPath
      | _, _ => systemPath
    else systemPath
  | none => systemPath

/-- Set the variables. -/
def firstSetting (environment : Bindings) : Act Unit := do
  let identity : Identity ← ask .identity
  modify fun s => { s with settings := firstVariables, root := identity.process }
  environment.forM fun (name, value) => do
    if isName name then
      if ownVariables.contains (String.ofList name) then
        modify fun s => s.putVariable name { (s.settings.lookup name).getD {} with isExported := true }
      else modify fun s => s.putVariable name { value := some value, isExported := true }
  modify fun s => s.putVariable "PPID".toList
    { (s.settings.lookup "PPID".toList).getD {} with value := some (numeral identity.parent) }
  let here ← firstDirectory
  modify fun s => { s.putVariable "PWD".toList { value := some here, isExported := true } with here }

/-! ## Arguments -/

/-- Read the options of one word; the flag tells that a script is given as an argument. -/
def startLetters (on : Bool) : Octets → List Octets → Bool → Act (List Octets × Bool)
  | [], args, takesScript => pure (args, takesScript)
  | c :: cs, args, takesScript => do
    if c = 'c' then startLetters on cs args true
    else if c = 'l' then startLetters on cs args takesScript
    else if c = 'm' then
      modify fun s => { s with options := if on then 'm' :: s.options else s.options.filter (· ≠ 'm') }
      startLetters on cs args takesScript
    else if c = 'o' then
      namedOption args.head? on
      startLetters on cs (args.drop 1) takesScript
    else
      setOption c on
      startLetters on cs args takesScript

/-- Read the options of the shell. -/
def startOptions : Nat → List Octets → Bool → Act (List Octets × Bool)
  | 0, args, takesScript => pure (args, takesScript)
  | fuel + 1, args, takesScript => do
    match args with
    | ['-'] :: rest => pure (rest, takesScript)
    | ['-', '-'] :: rest => pure (rest, takesScript)
    | ('-' :: cs) :: rest => do
      let (rest, takesScript) ← startLetters true cs rest takesScript
      startOptions fuel rest takesScript
    | ('+' :: cs) :: rest => do
      let (rest, takesScript) ← startLetters false cs rest takesScript
      startOptions fuel rest takesScript
    | _ => pure (args, takesScript)

/-- Jobs cannot be controlled where there is no terminal. -/
def giveUpTerminal : Act Unit := do
  let s ← get
  if s.has 'm' || s.has 'i' then
    set { s with options := s.options.filter (· ≠ 'm') }
    complain noTerminal

/-- Carry out what the shell has been started for. -/
def startWith (args : List Octets) : Act Unit := do
  let (args, takesScript) ← startOptions (args.length + 1) args false
  flush
  let readsInput : Bool := (← get).has 's'
  let start : Act Unit := do
    giveUpTerminal
    modify fun s => { s with line := 1 }
  let readFrom (descriptor : Nat) : Act Unit := do
    let _ ← source evaluate true descriptor endless { input := [] } false 0
  let readInput := readFrom 0
  match args with
  | [] => do
    if takesScript then fail "-c requires an argument"
    modify fun s => { s with options := if s.has 's' then s.options else 's' :: s.options }
    start
    readInput
  | first :: rest =>
    if takesScript then
      match rest with
      | [] => pure ()
      | name :: rest => modify fun s => { s with name, parameters := rest }
      start
      let whole := script evaluate { exits := !readsInput } first
      if (← recovering whole).isNone || readsInput then readInput
    else if readsInput then
      modify fun s => { s with parameters := args }
      start
      readInput
    else
      let descriptor ← openScript first
      modify fun s => { s with name := first, parameters := rest }
      start
      readFrom descriptor

end Act

/-- The program that is a shell. -/
def shellProgram (args : List Octets) (environment : Bindings) : Program :=
  let name := args.headD "sh".toList
  let whole := Act.lastly Act.evaluate (do
    Act.firstSetting environment
    Act.startWith (args.drop 1))
  whole.program { name, line := 0 } fun _ => 2

end Diagnostics.Sandbox
