import Diagnostics.Sandbox.Shell.Place
import Diagnostics.Sandbox.Shell.Redirect

/-!
# Finding commands

A command is a function, a command of the shell, or a program, which is looked for in the directories of programs
unless its name holds a slash.
-/

namespace Diagnostics.Sandbox

/-- What a command is. -/
inductive Found
  | function (body : Command)
  | own (name : String)
  | program (path : Octets) (isKnown : Bool)
  | missing (e : OsError)

/-- Commands of the shell that mean no more than others. -/
def plainCommands : List String :=
  ["[", "alias", "bg", "cd", "chdir", "command", "echo", "false", "fg", "getopts", "hash", "jobs", "kill",
    "printf", "pwd", "read", "test", "true", "type", "ulimit", "umask", "unalias", "wait"]

/-- Commands of the shell whose arguments may be assignments. -/
def assigningCommands : List String := ["alias", "export", "local", "readonly"]

/-- The command of the shell is one whose faults end it. -/
def isSpecialCommand (name : String) : Bool := name == "local" || specialCommands.contains name

/-- The command of the shell with a name. -/
def ownCommand? (name : Octets) : Option String :=
  let s := String.ofList name
  if isSpecialCommand s || plainCommands.contains s then some s else none

/-- Where programs are looked for if nothing else is said. -/
def standardPath : Octets := "/usr/local/sbin:/usr/local/bin:/usr/sbin:/usr/bin:/sbin:/bin".toList

namespace Act

/-- The first of some paths at which there is a program; or what is wrong with the last of them. -/
def firstProgram : List Octets → OsError → Act (Except OsError Octets)
  | [], e => pure (.error e)
  | path :: rest, e => do
    match ← ask (.look path true) with
    | .error found =>
      firstProgram rest (if found = .noSuchFile || found = .notADirectory then e else found)
    | .ok facts =>
      let isProgram := match facts.content with
        | .regular _ => facts.mode &&& 0o111 != 0
        | .program _ => true
        | _ => false
      if isProgram then pure (.ok path) else firstProgram rest .permission

/-- Find a program by its name. -/
def findProgram (path : Option Octets) (name : Octets) : Act Found := do
  let s ← get
  if name.contains '/' then pure (.program name false)
  else
    match if path.isNone then s.found.lookup name else none with
    | some known => pure (.program known true)
    | none =>
      let roads := path.getD ((s.value? "PATH".toList).getD standardPath)
      match ← firstProgram (pathEntries roads name) .noSuchFile with
      | .error e => pure (.missing e)
      | .ok found => do
        if path.isNone then modify fun s => { s with found := s.found ++ [(name, found)] }
        pure (.program found false)

/-- Find a command. -/
def findCommand (usesFunctions : Bool) (path : Option Octets) (name : Octets) : Act Found := do
  let s ← get
  match if usesFunctions then s.functions.lookup name else none with
  | some body => pure (.function body)
  | none =>
    match ownCommand? name with
    | some own => pure (.own own)
    | none => findProgram path name

/-! ## Describing commands -/

/-- Say what a command is. -/
def describe (path : Option Octets) (long : Bool) (name : Octets) : Act Nat := do
  let s ← get
  let told (text : String) : Act Nat := do
    print (name ++ (if long then text.toList else []) ++ ['\n'])
    pure 0
  if (Keyword.find? name).isSome then told " is a shell keyword"
  else
    match s.aliases.lookup name with
    | some value => do
      if long then print (name ++ " is an alias for ".toList ++ value ++ ['\n'])
      else print "alias ".toList; showAlias name value
      pure 0
    | none =>
      let isKnown := path.isNone && (s.found.lookup name).isSome
      match ← findCommand path.isNone path name with
      | .function _ => told " is a shell function"
      | .own own => told (if isSpecialCommand own then " is a special shell builtin" else " is a shell builtin")
      | .program found _ => do
        let isThere ← if name.contains '/' then do
            match ← ask (.look name true) with
            | .ok _ => pure true
            | .error _ => pure false
          else pure true
        unless isKnown do modify fun s => { s with found := s.found.filter (·.1 ≠ name) }
        if !isThere then
          if long then print (name ++ ": not found\n".toList)
          pure 127
        else if long then
          let how := if isKnown then " is a tracked alias for " else " is "
          print (name ++ how.toList ++ found ++ ['\n'])
          pure 0
        else
          print (found ++ ['\n'])
          pure 0
      | .missing _ => do
        if long then print (name ++ ": not found\n".toList)
        pure 127

/-- Say what commands are. -/
def typeCommand (args : List Octets) : Act Nat := do
  let (_, args) ← takeOptions "" args
  let results ← args.mapM (describe none true)
  pure (results.foldl max 0)

/-- Say what a command is, in one way or another. -/
def commandCommand (args : List Octets) : Act Nat := do
  let (options, args) ← takeOptions "pvV" args
  let path := if options.any (·.1 == 'p') then some standardPath else none
  match args with
  | name :: _ =>
    if options.any (·.1 == 'V') then describe path true name
    else if options.any (·.1 == 'v') then describe path false name
    else pure 0
  | [] => pure 0

/-- Show or forget where programs have been found. -/
def hashCommand (args : List Octets) : Act Nat := do
  let (options, args) ← takeOptions "r" args
  if options.any (·.1 == 'r') then
    modify fun s => { s with found := [] }
    pure 0
  else if args.isEmpty then
    (← get).found.forM fun (_, path) => print (path ++ ['\n'])
    pure 0
  else
    let results ← args.mapM fun name => do
      modify fun s => { s with found := s.found.filter (·.1 ≠ name) }
      match ← findCommand true none name with
      | .missing e => do
        complain (name ++ ": ".toList ++ Purpose.run.words e)
        pure 1
      | _ => pure 0
    pure (results.foldl max 0)

end Act

end Diagnostics.Sandbox
