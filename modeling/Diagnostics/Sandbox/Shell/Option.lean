import Diagnostics.Sandbox.Shell.Expand
import Diagnostics.Sandbox.Shell.Job

/-!
# Options and settings

The options of the shell's own commands, the options of the shell itself, and the commands that change variables and
settings.
-/

namespace Diagnostics.Sandbox

namespace Act

/-! ## Options of commands -/

/-- The option is allowed, and whether it takes an argument. -/
def optionKind? (allowed : Octets) (c : Char) : Option Bool :=
  match allowed with
  | [] => none
  | a :: ':' :: rest => if a = c then some true else optionKind? rest c
  | a :: rest => if a = c then some false else optionKind? rest c

/-- Take the options of one word, with their arguments. -/
def wordOptions (allowed : Octets) : Octets → List Octets → List (Char × Octets) →
    Act (List (Char × Octets) × List Octets)
  | [], args, seen => pure (seen, args)
  | c :: cs, args, seen => do
    match optionKind? allowed c with
    | none => failWith ("Illegal option -".toList ++ [c])
    | some false => wordOptions allowed cs args ((c, []) :: seen)
    | some true =>
      match cs, args with
      | _ :: _, _ => pure ((c, cs) :: seen, args)
      | [], value :: args => pure ((c, value) :: seen, args)
      | [], [] => failWith ("No arg for -".toList ++ [c] ++ " option".toList)

/-- Take options off the arguments; `fuel` bounds the number of words. -/
def takeOptionsWith (allowed : Octets) : Nat → List Octets → List (Char × Octets) →
    Act (List (Char × Octets) × List Octets)
  | 0, args, seen => pure (seen.reverse, args)
  | fuel + 1, args, seen => do
    match args with
    | ['-', '-'] :: rest => pure (seen.reverse, rest)
    | ('-' :: c :: cs) :: rest => do
      let (seen, rest) ← wordOptions allowed (c :: cs) rest seen
      takeOptionsWith allowed fuel rest seen
    | args => pure (seen.reverse, args)

/-- Take options off the arguments, up to the first word that is none. -/
def takeOptions (allowed : String) (args : List Octets) : Act (List (Char × Octets) × List Octets) :=
  takeOptionsWith allowed.toList (args.length + 1) args []

/-- A number that counts something. -/
def count (cs : Octets) : Act Nat :=
  match wholeNumber? (some 10) cs with
  | some n => if 0 ≤ n && n < 2147483648 then pure n.toNat else failWith ("Illegal number: ".toList ++ cs)
  | none => failWith ("Illegal number: ".toList ++ cs)

/-! ## Quoting -/

/-- A text in single quotes; runs of single quotes in it stand in double quotes. -/
def quoteWith : Nat → Octets → Octets
  | 0, _ => []
  | fuel + 1, cs =>
    let plain := cs.takeWhile (· != '\'')
    let rest := cs.drop plain.length
    let quotes := rest.takeWhile (· == '\'')
    let rest := rest.drop quotes.length
    '\'' :: plain ++ '\'' ::
      (if quotes.isEmpty then [] else '"' :: quotes ++ '"' :: (if rest.isEmpty then [] else quoteWith fuel rest))

/-- A text as a script would write it. -/
def quoteText (cs : Octets) : Octets := quoteWith (cs.length + 1) cs

/-! ## Options of the shell -/

/-- Jobs are not controlled because there is no terminal. -/
def noTerminal : Octets := "can't access tty; job control turned off".toList

/-- Set an option, or take it back. -/
def setOption (c : Char) (on : Bool) : Act Unit := do
  if optionTable.any (·.2 == some c) then
    if c = 'm' && on then complain noTerminal
    else
      modify fun s => { s with options := if on then c :: s.options.filter (· ≠ c) else s.options.filter (· ≠ c) }
      if c = 'i' && (← get).converses then beginConversation
  else failWith ("Illegal option ".toList ++ [if on then '-' else '+', c])

/-- The sign under which an option without a letter is kept. -/
def hiddenLetter (name : String) : Char := if name = "nolog" then '\x01' else '\x02'

/-- Show the options, or set the one with a name. -/
def namedOption (name : Option Octets) (on : Bool) : Act Unit := do
  let s ← get
  match name with
  | none =>
    if on then
      printText "Current option settings\n"
      optionTable.forM fun (name, letter) => do
        let isOn := s.has (letter.getD (hiddenLetter name))
        print (name.toList ++ List.replicate (16 - name.length) ' ' ++ (if isOn then "on" else "off").toList ++ ['\n'])
    else
      optionTable.forM fun (name, letter) => do
        let isOn := s.has (letter.getD (hiddenLetter name))
        printText ("set " ++ (if isOn then "-" else "+") ++ "o " ++ name ++ "\n")
  | some name =>
    match optionTable.find? fun (n, _) => n.toList = name with
    | some (n, letter) =>
      match letter with
      | some c => setOption c on
      | none => modify fun s =>
        { s with options := if on then hiddenLetter n :: s.options else s.options.filter (· ≠ hiddenLetter n) }
    | none => failWith ("Illegal option ".toList ++ [if on then '-' else '+'] ++ "o ".toList ++ name)

/-- Set the options of one word. -/
def wordSettings (on : Bool) : Octets → List Octets → Act (List Octets)
  | [], args => pure args
  | 'o' :: cs, args => do
    namedOption args.head? on
    wordSettings on cs (args.drop 1)
  | c :: cs, args => do
    setOption c on
    wordSettings on cs args

/-- Set options and parameters. -/
def settings : Nat → List Octets → Act (Option (List Octets))
  | 0, _ => pure none
  | fuel + 1, args => do
    match args with
    | ['-'] :: rest => do
      setOption 'x' false
      setOption 'v' false
      pure (if rest.isEmpty then none else some rest)
    | ['-', '-'] :: rest => pure (some rest)
    | ('-' :: cs) :: rest => settings fuel (← wordSettings true cs rest)
    | ('+' :: cs) :: rest => settings fuel (← wordSettings false cs rest)
    | [] => pure none
    | args => pure (some args)

/-- Give the parameters other values. -/
def setParameters (args : List Octets) : Act Unit :=
  modify fun s => { s with parameters := args, optionPlace := (1, none) }

/-! ## Variables -/

/-- Show variables, in the order of their names. -/
def showVariables (before : String) (p : Variable → Bool) : Act Unit := do
  let s ← get
  let shown := s.settings.filter fun (_, v) => p v && (v.value.isSome || before ≠ "")
  (shown.mergeSort fun a b => octetsLe a.1 b.1).forM fun (name, v) => do
    let value := match v.value with
      | some value => '=' :: quoteText value
      | none => []
    print ((if before = "" then [] else before.toList ++ [' ']) ++ name ++ value ++ ['\n'])

/-- Set options and parameters, or show all variables. -/
def setCommand (args : List Octets) : Act Nat := do
  if args.isEmpty then showVariables "" fun _ => true
  else
    match ← settings (args.length + 1) args with
    | some rest => setParameters rest
    | none => pure ()
  pure 0

/-- Let variables be known to other programs, or fix their values. -/
def markVariables (name : String) (mark : Variable → Variable) (isMarked : Variable → Bool) (args : List Octets) :
    Act Nat := do
  let (options, args) ← takeOptions "p" args
  if !options.isEmpty || args.isEmpty then showVariables name isMarked
  else
    args.forM fun arg => do
      let bare := arg.takeWhile (· != '=')
      let value := match arg.dropWhile (· != '=') with
        | _ :: value => some value
        | [] => none
      match value, (← get).settings.lookup bare with
      | none, some v => modify fun s => s.putVariable bare (mark v)
      | none, none => do
        unless isName bare do failWith (bare ++ ": bad variable name".toList)
        modify fun s => s.putVariable bare (mark {})
      | some value, _ => do
        assignChecked bare value false
        modify fun s => s.putVariable bare (mark ((s.settings.lookup bare).getD {}))
  pure 0

/-- Take variables or functions away. -/
def unsetCommand (args : List Octets) : Act Nat := do
  let (options, args) ← takeOptions "vf" args
  let isFunction := options.getLast?.any fun o => o.1 == 'f'
  args.forM fun name => do
    if isFunction then modify fun s => { s with functions := s.functions.filter (·.1 ≠ name) }
    else do
      unless isName (name.takeWhile (· != '=')) do
        failWith (name.takeWhile (· != '=') ++ ": bad variable name".toList)
      unassign name
  pure 0

/-- Drop parameters from the front. -/
def shiftCommand (args : List Octets) : Act Nat := do
  let n ← match args.head? with
    | some cs => count cs
    | none => pure 1
  let s ← get
  if s.parameters.length < n then fail "can't shift that many"
  setParameters (s.parameters.drop n)
  pure 0

/-- Make variables local to a function. -/
def localCommand (args : List Octets) : Act Nat := do
  if (← get).functionDepth = 0 then fail "not in a function"
  args.forM fun arg => do
    if arg = ['-'] then
      modify fun s =>
        match s.locals with
        | frame :: rest => { s with locals := { frame with options := some (frame.options.getD s.options) } :: rest }
        | [] => s
    else
      let bare := arg.takeWhile (· != '=')
      match arg.dropWhile (· != '=') with
      | _ :: value => do
        unless isName bare do failWith (bare ++ ": bad variable name".toList)
        keep bare
        assign bare value false
      | [] => do
        unless isName bare do failWith (bare ++ ": bad variable name".toList)
        keep bare
        match (← get).settings.lookup bare with
        | some _ => pure ()
        | none => modify fun s => s.putVariable bare {}
  pure 0

/-! ## Aliases -/

/-- Show an alias. -/
def showAlias (name value : Octets) : Act Unit := print (name ++ '=' :: quoteText value ++ ['\n'])

/-- Give a name another value, or add it at the end. -/
def putPair (pairs : List (Octets × Octets)) (name value : Octets) : List (Octets × Octets) :=
  if pairs.any fun p => p.1 == name then pairs.map fun p => if p.1 = name then (name, value) else p
  else pairs ++ [(name, value)]

/-- Define aliases, or show them. -/
def aliasCommand (args : List Octets) : Act Nat := do
  if args.isEmpty then
    ((← get).aliases.mergeSort fun a b => Shell.bucket a.1 ≤ Shell.bucket b.1).forM fun (name, value) =>
      showAlias name value
    pure 0
  else
    let results ← args.mapM fun arg => do
      let name := arg.take 1 ++ (arg.drop 1).takeWhile (· != '=')
      match arg.drop name.length with
      | _ :: value => do
        modify fun s => { s with aliases := putPair s.aliases name value }
        pure 0
      | [] =>
        match (← get).aliases.lookup name with
        | some value => do showAlias name value; pure 0
        | none => do
          let _ ← write 2 ("alias: ".toList ++ name ++ " not found\n".toList)
          pure 1
    pure (results.foldl max 0)

/-- Forget aliases. -/
def unaliasCommand (args : List Octets) : Act Nat := do
  let (options, args) ← takeOptions "a" args
  if !options.isEmpty then
    modify fun s => { s with aliases := [] }
    pure 0
  else
    let results ← args.mapM fun name => do
      if (← get).aliases.any (·.1 == name) then
        modify fun s => { s with aliases := s.aliases.filter (·.1 ≠ name) }
        pure 0
      else do
        let _ ← write 2 ("unalias: ".toList ++ name ++ " not found\n".toList)
        pure 1
    pure (results.foldl max 0)

/-! ## The mask of permissions -/

/-- Permissions as letters. -/
def modeLetters (bits : Nat) : Octets :=
  (if bits &&& 4 ≠ 0 then ['r'] else []) ++ (if bits &&& 2 ≠ 0 then ['w'] else []) ++
    (if bits &&& 1 ≠ 0 then ['x'] else [])

/-- Four octal digits. -/
def fourOctal (n : Nat) : Octets :=
  let ds := Nat.toDigits 8 n
  List.replicate (4 - ds.length) '0' ++ ds

/-- Bits of the letters of permissions. -/
def letterBits (cs : Octets) : Nat :=
  cs.foldl (fun n c => n ||| (if c = 'r' then 4 else if c = 'w' then 2 else if c = 'x' then 1 else 0)) 0

/-- Change permissions by one clause of a symbolic mode. -/
def applyClause (mode : Nat) (clause : Octets) : Option Nat :=
  let who := clause.takeWhile fun c => "ugoa".toList.contains c
  let everyone := who.isEmpty || who.contains 'a'
  let spread (bits : Nat) : Nat :=
    (if everyone || who.contains 'u' then bits * 64 else 0) + (if everyone || who.contains 'g' then bits * 8 else 0) +
      (if everyone || who.contains 'o' then bits else 0)
  match clause.drop who.length with
  | op :: letters =>
    if !letters.all fun c => "rwxXst".toList.contains c then none
    else
      let bits := spread (letterBits letters)
      if op = '+' then some (mode ||| bits)
      else if op = '-' then some (mode - (mode &&& bits))
      else if op = '=' then some ((mode - (mode &&& spread 7)) ||| bits)
      else none
  | [] => none

/-- Show the mask of permissions, or set it. -/
def umaskCommand (args : List Octets) : Act Nat := do
  let (options, args) ← takeOptions "S" args
  let mask : Nat ← ask (.setMask 0)
  let _ ← ask (.setMask mask)
  match args with
  | [] =>
    if options.isEmpty then print (fourOctal mask ++ ['\n'])
    else
      let allowed := 0o777 - mask
      print ("u=".toList ++ modeLetters (allowed / 64) ++ ",g=".toList ++ modeLetters (allowed / 8) ++
        ",o=".toList ++ modeLetters allowed ++ ['\n'])
    pure 0
  | arg :: _ => do
    if arg.head?.any Char.isDigit then
      let (n, rest) := takeNumeral 8 0 arg
      unless rest.isEmpty do failWith ("Illegal number: ".toList ++ arg)
      let _ ← ask (.setMask n)
    else
      let clauses := (String.ofList arg).splitOn ","
      match clauses.foldlM (fun mode c => applyClause mode c.toList) (0o777 - mask) with
      | some allowed => do
        let _ ← ask (.setMask (0o777 - allowed))
      | none => failWith ("Illegal mode: ".toList ++ arg)
    pure 0

end Act

end Diagnostics.Sandbox
