import Diagnostics.Sandbox.Shell.Become
import Diagnostics.Sandbox.Shell.Condition
import Diagnostics.Sandbox.Shell.JobCommand
import Diagnostics.Sandbox.Shell.Limit
import Diagnostics.Sandbox.Shell.Print
import Diagnostics.Sandbox.Shell.Read

/-!
# Carrying out commands

Each kind of command has a rule of its own, which is given a way to carry out the commands in it. The status of what
was carried out last is part of the state, and what is to be left, a loop or a function or the shell, is told by the
reason to stop.
-/

namespace Diagnostics.Sandbox

/-- How a command stands in its script: the script looks at its status, so that a failure is no reason to end; and
nothing comes after it. -/
structure Standing where
  tested : Bool := false
  exits : Bool := false

/-- A way to carry out commands. -/
abbrev Evaluator := Standing → Command → Act Unit

namespace Act

/-- Change the status. -/
def setStatus (status : Nat) : Act Unit := modify fun s => { s with status }

/-! ## Scripts in a text -/

/-- A script cannot be read. -/
def failSyntax (fault : ScriptFault) : Act α := do
  modify fun s => { s with line := fault.line }
  fail ("Syntax error: " ++ fault.text)

/-- The reader with what the shell knows. -/
def prepared (r : Reader) : Act Reader := do
  let s ← get
  pure { r with aliases := s.aliases, documents := s.documents, hasMetEnd := false }

/-- Carry out a line that has been read. What is at the end of a script is the last thing that the shell does if the
script is. -/
def carryOut (run : Evaluator) (standing : Standing) (c : Option Command) (r : Reader) (status : Nat) : Act Nat := do
  modify fun s => { s with documents := r.documents }
  let isLast := match Reading.isAtEnd r with
    | .ok (isLast, _) => isLast
    | .error _ => false
  let exits := standing.exits && isLast
  match c with
  | some c => do
    run { standing with exits } c
    pure (← get).status
  | none => if exits then throw .finish else pure status

/-- Carry out what is left of a script, line by line; the status of the last one. -/
def lines (run : Evaluator) (standing : Standing) : Nat → Reader → Nat → Act Nat
  | 0, _, status => pure status
  | fuel + 1, r, status => do
    match Reading.commandLine (← prepared r) with
    | .error fault => failSyntax fault
    | .ok (none, _) => pure status
    | .ok (some c, r) => do
      let status ← carryOut run standing c r status
      lines run standing fuel r status

/-- Carry out a script. -/
def script (run : Evaluator) (standing : Standing) (text : Octets) : Act Nat :=
  lines run standing endless { input := text } 0

/-! ## Traps -/

/-- Carry out what is to be done for the signals that have come. The status is afterwards what it was before. -/
def runTraps (run : Evaluator) : Act Unit := do
  takeSignals
  let s ← get
  unless s.pending.isEmpty do
    let status := s.savedStatus.getD s.status
    set { s with savedStatus := some status, pending := [] }
    (s.pending.mergeSort).forM fun n => do
      match (← get).traps.lookup n with
      | some action => do
        let _ ← script run {} action
        setStatus status
      | none => pure ()
    modify fun now => { now with savedStatus := s.savedStatus }

/-- Carry out a task as the last thing of a shell, and then what is to be done at its end; the status that the shell
ends with. -/
def lastly (run : Evaluator) (task : Act Unit) : Act Nat := do
  match ← task.attempt with
  | .error .exit => modify fun s => { s with status := s.savedStatus.getD s.status }
  | _ => pure ()
  modify fun s => { s with savedStatus := some s.status, loops := 0 }
  let s ← get
  match s.traps.lookup 0 with
  | none => pure ()
  | some action => do
    set { s with traps := s.traps.filter (·.1 ≠ 0) }
    match ← (script run {} action).attempt with
    | .error .failure => pure ()
    | .error .finish => pure ()
    | _ => modify fun s => { s with status := s.savedStatus.getD s.status }
  flush
  pure (← get).status

/-! ## What commands print -/

/-- Wait for children that have just been started. -/
def waitForAll (children : List Nat) : Act Nat :=
  waitFor waitLimit { number := 0, processes := children.map fun p => (p, none) }

/-- Let a descriptor lead where another one leads, which is closed. -/
def moveDescriptor (source target : Nat) : Act Unit := do
  unless source = target do
    let _ ← ask (.duplicate source target)
    let _ ← ask (.close source)

/-- What a command prints. -/
def substitution (run : Evaluator) (c : Command) : Act Octets := do
  let (source, sink) ← ask .pipe
  let child ← startCopy false false (lastly run (do
    let _ ← ask (.close source)
    moveDescriptor sink 1
    run { exits := true } c))
  let _ ← ask (.close sink)
  let text := (← Task.readAll source).toOption.getD []
  let _ ← ask (.close source)
  let status ← waitForAll [child]
  modify fun s => { s with substitutionStatus := status }
  pure text

/-! ## Commands of the shell that carry out commands -/

/-- Leave loops, or begin the next round of one. -/
def leaveCommand (again : Bool) (args : List Octets) : Act Nat := do
  let n ← match args.head? with
    | some cs => count cs
    | none => pure 1
  if n = 0 then failWith ("Illegal number: ".toList ++ args.headD [])
  let n := min n (← get).loops
  if n = 0 then pure 0
  else
    setStatus 0
    throw (if again then .nextRound n else .leaveLoop n)

/-- Leave a function or a file of commands. -/
def returnCommand (args : List Octets) : Act Nat := do
  let status ← match args.head? with
    | some cs => count cs
    | none => pure (← get).status
  setStatus status
  throw .leaveFunction

/-- End the shell. -/
def exitCommand (args : List Octets) : Act Nat := do
  match args.head? with
  | some cs => do
    let n ← count cs
    modify fun s => { s with savedStatus := some n }
  | none => pure ()
  throw .exit

/-- The directories in which programs are looked for. -/
def roads : Act Octets := return ((← get).value? "PATH".toList).getD standardPath

/-- Become another program. -/
def execCommand (args : List Octets) : Act Nat := do
  if args.isEmpty then pure 0
  else
    let s ← get
    if s.converses then leaveConversation
    set { s with options := s.options.filter (· ≠ 'i') }
    become (← roads) none args

/-- Carry out words as a script. -/
def evalCommand (run : Evaluator) (standing : Standing) (args : List Octets) : Act Nat :=
  script run { tested := standing.tested } ([' '].intercalate args)

/-! ## Talking -/

/-- A text with what it says about parameters and commands expanded; the text as it is if that fails. -/
def expandSign (substitute : Command → Act Octets) (sign : Octets) : Act Octets := do
  let expanded : Act Octets :=
    match Reading.text { input := sign } with
    | .error fault => failSyntax fault
    | .ok (w, _) => expandText substitute { quoted := true } w
  match ← expanded.attempt with
  | .ok shown => pure shown
  | .error .failure => pure sign
  | .error e => throw e

/-- Say that more is wanted, in the words of a variable. -/
def sayPrompt (run : Evaluator) (name : String) : Act Unit := do
  let _ ← write 2 (← expandSign (substitution run) (((← get).value? name.toList).getD []))

/-- So often the end of the input is not taken for the end of the conversation. -/
def endsIgnored : Nat := 50

/-- Say something at the end of the input. -/
def sayFarewell (run : Evaluator) : Act Unit := do
  let s ← get
  if s.has 'I' then
    (List.range endsIgnored).forM fun _ => do
      let _ ← write 2 "\nUse \"exit\" to leave shell.\n".toList
      if s.converses then sayPrompt run "PS1"
  else if s.has 'i' then
    let _ ← write 2 ['\n']

/-- Begin anew after something has gone wrong. -/
def startAgain : Act Unit := do
  popLocalsTo 0 endless
  modify fun s => { s with loops := 0, functionDepth := 0, isTracing := false, commandName := none }

/-- Carry out a task that may go wrong without an end of the shell, if that talks to somebody. -/
def recovering (task : Act Nat) : Act (Option Nat) := do
  match ← task.attempt with
  | .ok status => pure (some status)
  | .error .failure => do
    unless (← get).converses do throw .failure
    startAgain
    pure none
  | .error .interrupted => do
    startAgain
    let _ ← write 2 ['\n']
    pure none
  | .error e => throw e

/-- Descriptors of scripts are at least this. -/
def leastPrivate : Nat := 10

/-- Open a script. -/
def openScript (path : Octets) : Act Nat := do
  match ← ask (.openFile path { reads := true } 0) with
  | .error e => failWith ("cannot open ".toList ++ path ++ ": ".toList ++ Purpose.openIt.words e)
  | .ok n =>
    match ← ask (.duplicateFrom n leastPrivate) with
    | .error _ => pure n
    | .ok copy => do
      let _ ← ask (.close n)
      pure copy

/-- So much of a script is read at once. -/
def scriptChunk : Nat := 8192

/-- Say the lines that have been read, if the shell is to do so. -/
def sayLines (input : List Char) (count : Nat) : Act Unit := do
  if (← get).has 'v' then
    let said := input.take count ++ (if (input.take count).getLast?.any (· == '\n') then []
      else (input.drop count).takeWhile (· != '\n') ++ ((input.drop count).dropWhile (· != '\n')).take 1)
    let _ ← write 2 said

/-- The number of characters in the first lines of a text. -/
def lengthOfLines : Nat → List Char → Nat
  | 0, _ => 0
  | n + 1, cs =>
    let line := cs.takeWhile (· != '\n')
    let rest := cs.drop line.length
    match rest with
    | _ :: rest => line.length + 1 + lengthOfLines n rest
    | [] => line.length

/-- Read a line of commands from a descriptor, no more of it at a time than is needed: what has been read, the reader
before it, and whether the descriptor has come to its end. -/
def nextCommand (descriptor : Nat) :
    Nat → Reader → Bool → Act (Except ScriptFault (Option (Option Command) × Reader) × Reader × Bool)
  | 0, r, isOver => pure (.ok (none, r), r, isOver)
  | fuel + 1, r, isOver => do
    let r ← prepared r
    let reading := Reading.commandLine r
    let wantsMore := match reading with
      | .ok (_, after) => after.hasMetEnd
      | .error _ => true
    if wantsMore && !isOver then
      match ← ask (.read descriptor scriptChunk) with
      | .ok (c :: cs) => nextCommand descriptor fuel { r with input := r.input ++ (c :: cs).filter (· != '\x00') } false
      | _ => nextCommand descriptor fuel r true
    else pure (reading, r, isOver)

/-- Carry out a script that is read from a descriptor. The main one is where a shell talks to somebody: it says when it
wants more, and after something has gone wrong it forgets what it has read and goes on. -/
def source (run : Evaluator) (isMain : Bool) (descriptor : Nat) : Nat → Reader → Bool → Nat → Act Nat
  | 0, _, _, status => pure status
  | fuel + 1, r, isOver, status => do
    let converses := isMain && (← get).converses
    if converses then sayPrompt run "PS1"
    let (reading, r, isOver) ← nextCommand descriptor endless r isOver
    let sayMore (n : Nat) : Act Unit := if converses then (List.range n).forM fun _ => sayPrompt run "PS2" else pure ()
    let attempted (task : Act Nat) : Act (Option Nat) := if isMain then recovering task else some <$> task
    let (outcome, after) ← match reading with
      | .error fault => do
        sayLines r.input (lengthOfLines (fault.line + 1 - r.line) r.input)
        sayMore fault.goneOn
        pure (← attempted (failSyntax fault), { r with line := fault.line })
      | .ok (c, after) => do
        sayLines r.input (r.input.length - after.input.length)
        sayMore after.goneOn
        match c with
        | none => do
          if isMain then sayFarewell run
          return status
        | some c => pure (← attempted (carryOut run {} c after status), after)
    match outcome with
    | some status => source run isMain descriptor fuel after isOver status
    | none => source run isMain descriptor fuel { after with input := [] } isOver (← get).status

/-- The path of a script, which is looked for like a program unless its name holds a slash. -/
def findScript (name : Octets) : Act Octets := do
  if name.contains '/' then pure name
  else
    let isScript (path : Octets) : Act Bool := do
      match ← ask (.look path true) with
      | .ok { content := .regular _, .. } => pure true
      | _ => pure false
    match ← (pathEntries (← roads) name).findM? isScript with
    | some path => pure path
    | none => failWith (name ++ ": not found".toList)

/-- Carry out a script in this shell. -/
def sourceCommand (run : Evaluator) (args : List Octets) : Act Nat := do
  let (_, args) ← takeOptions "" args
  match args with
  | [] => pure 0
  | name :: _ => do
    let path ← findScript name
    let descriptor ← openScript path
    modify fun s => { s with commandName := some path }
    let whole := Task.thenAlways (source run false descriptor endless { input := [] } false 0) (do
      let _ ← ask (.close descriptor))
    match ← whole.attempt with
    | .ok status => pure status
    | .error .leaveFunction => pure (← get).status
    | .error e => throw e

/-! ## All commands of the shell -/

/-- Carry out a command of the shell. -/
def ownCommand (run : Evaluator) (standing : Standing) (name : String) (args : List Octets) : Act Nat :=
  match name with
  | ":" => pure 0
  | "true" => pure 0
  | "false" => pure 1
  | "." => sourceCommand run args
  | "eval" => evalCommand run standing args
  | "exec" => execCommand args
  | "exit" => exitCommand args
  | "return" => returnCommand args
  | "break" => leaveCommand false args
  | "continue" => leaveCommand true args
  | "export" =>
    markVariables "export" (fun v => { v with isExported := true }) (·.isExported) args
  | "readonly" =>
    markVariables "readonly" (fun v => { v with isFixed := true }) (·.isFixed) args
  | "local" => localCommand args
  | "set" => setCommand args
  | "shift" => shiftCommand args
  | "unset" => unsetCommand args
  | "times" => do
    printText "0m0.000000s 0m0.000000s\n0m0.000000s 0m0.000000s\n"
    pure 0
  | "trap" => trapCommand args
  | "[" => testCondition true args
  | "test" => testCondition false args
  | "alias" => aliasCommand args
  | "unalias" => unaliasCommand args
  | "bg" => foregroundCommand args
  | "fg" => foregroundCommand args
  | "jobs" => jobsCommand args
  | "wait" => waitCommand args
  | "kill" => killCommand args
  | "cd" => cdCommand args
  | "chdir" => cdCommand args
  | "pwd" => pwdCommand args
  | "command" => commandCommand args
  | "type" => typeCommand args
  | "hash" => hashCommand args
  | "echo" => printWords args
  | "printf" => printFormatted args
  | "getopts" => getoptsCommand args
  | "read" => readCommand args
  | "ulimit" => ulimitCommand args
  | "umask" => umaskCommand args
  | _ => pure 0

/-- Carry out a command of the shell, under its name. What it has printed is written at the end. -/
def underName (name : Octets) (task : Act Nat) : Act Unit := do
  let before := (← get).commandName
  modify fun s => { s with commandName := some name }
  let whole : Act Unit := do
    let status ← task
    flush
    let s ← get
    if s.cannotPrint then complain ((s.commandName.getD name) ++ ": I/O error".toList)
    setStatus (if s.cannotPrint then status ||| 1 else status)
  Task.thenAlways whole (modify fun s =>
    { s with printed := [], cannotPrint := false, commandName := before })

/-! ## Simple commands -/

/-- The beginning of a simple command: the words that have been expanded, those that are still to be, and what is known
of the command: that it is one of the shell's own, whether a fault in it ends the shell, whether it may be a function,
and where it is looked for. -/
structure Opening where
  args : List Octets
  rest : List Word
  own : Option String := none
  isSpecial : Option Bool := none
  usesFunctions : Bool := true
  roads : Option Octets := none

/-- Expand words until one of them gives something. -/
def fill (substitute : Command → Act Octets) : List Word → Act (List Octets × List Word)
  | [] => pure ([], [])
  | w :: rest => do
    match ← expandFields substitute w with
    | [] => fill substitute rest
    | fields => pure (fields, rest)

/-- Go past the options of the word that says how a command is looked for; the flag tells that a command follows. -/
def passOptions (substitute : Command → Act Octets) (o : Opening) :
    Nat → List Octets → List Octets → List Word → Option Octets → Act (Opening × Bool)
  | 0, _, _, _, _ => pure (o, false)
  | fuel + 1, seen, left, rest, roads => do
    let refill (left : List Octets) (rest : List Word) : Act (List Octets × List Word) :=
      if left.isEmpty then fill substitute rest else pure (left, rest)
    let (left, rest) ← refill left rest
    let stays : Opening := { o with args := seen.reverse ++ left, rest, roads }
    match left with
    | [] => pure (stays, false)
    | ['-', '-'] :: more => do
      let (more, rest) ← refill more rest
      if more.isEmpty then pure (stays, false)
      else pure ({ o with args := more, rest, roads, usesFunctions := false }, true)
    | ('-' :: c :: cs) :: more =>
      if (c :: cs).all (· == 'p') then
        passOptions substitute o fuel (('-' :: c :: cs) :: seen) more rest (some standardPath)
      else pure (stays, false)
    | left => pure ({ o with args := left, rest, roads, usesFunctions := false }, true)

/-- Find out what kind of command it is. -/
def openCommand (substitute : Command → Act Octets) : Nat → Opening → Act Opening
  | 0, o => pure o
  | fuel + 1, o => do
    let name := o.args.headD []
    let isFunction := o.usesFunctions && (← get).functions.any (·.1 == name)
    match if isFunction then none else ownCommand? name with
    | none => pure { o with own := none }
    | some own => do
      let o := { o with own := some own, isSpecial := some (o.isSpecial.getD (isSpecialCommand own)) }
      if own ≠ "command" then pure o
      else
        let (o, goesOn) ← passOptions substitute o endless [name] (o.args.drop 1) o.rest o.roads
        if goesOn then openCommand substitute fuel o else pure o

/-- Expand a word of assignments. -/
def expandAssignment (substitute : Command → Act Octets) (w : Word) : Act Octets :=
  expandText substitute { homes := true } w

/-- Show a command before it is carried out. -/
def traceCommand (substitute : Command → Act Octets) (descriptor : Nat) (words : List Octets) : Act Unit := do
  let s ← get
  if s.has 'x' && !s.isTracing then
    set { s with isTracing := true }
    let sign := (s.value? "PS4".toList).getD []
    let shown ← expandSign substitute sign
    modify fun s => { s with isTracing := false }
    let _ ← write descriptor (shown ++ [' '].intercalate words ++ ['\n'])

/-- Functions call each other to this depth. -/
def callLimit : Nat := 1000

/-- Call a function. -/
def callFunction (run : Evaluator) (standing : Standing) (args : List Octets) (body : Command) : Act Unit := do
  let before ← get
  if callLimit ≤ before.functionDepth then
    fail ("Maximum function recursion depth (" ++ toString callLimit ++ ") reached")
  set { before with
    parameters := args, optionPlace := (1, none), loops := 0, functionDepth := before.functionDepth + 1 }
  let outcome ← (run { tested := standing.tested } body).attempt
  modify fun s => { s with
    parameters := before.parameters, optionPlace := before.optionPlace, loops := before.loops
    functionDepth := before.functionDepth }
  match outcome with
  | .error .leaveFunction => pure ()
  | .error e => throw e
  | .ok _ => pure ()

/-- Something is to be done when a signal comes, or at the end. -/
def hasTraps (s : Shell) : Bool := s.traps.any fun (_, action) => !action.isEmpty

/-- Carry out a task of a copy; its status in the end. -/
def statusAfter (task : Act Unit) : Act Nat := do
  let _ ← task.attempt
  pure (← get).status

/-- Run a program. -/
def runProgram (standing : Standing) (o : Opening) (args : List Octets) : Act Unit := do
  let name := args.headD []
  match ← findProgram o.roads name with
  | .program path _ => do
    let directories ← match o.roads with
      | some directories => pure directories
      | none => roads
    if standing.exits && !hasTraps (← get) then become directories (some path) args
    else
      let child ← startCopy false false (statusAfter (become directories (some path) args))
      setStatus (← waitForAll [child])
  | .missing e => do
    complain (name ++ ": ".toList ++ Purpose.run.words e)
    setStatus 127
  | _ => pure ()

/-- Give variables their values for a command, and for what comes after it unless they are local to it. -/
def assignAll (substitute : Command → Act Octets) (isLocal exports : Bool) (assignments : List Word) :
    Act (List Octets) :=
  assignments.mapM fun w => do
    let text ← expandAssignment substitute w
    let name := text.takeWhile (· != '=')
    if isLocal then keep name
    assign name (text.drop (name.length + 1)) (isLocal || exports)
    pure text

/-- Carry out a simple command: its words are expanded, its redirections are carried out, its variables are set, and
then the command is found. -/
def simple (run : Evaluator) (standing : Standing) (line : Nat) (assignments words : List Word)
    (redirections : List Redirection) : Act Unit := do
  let substitute := substitution run
  modify fun s => { s with line, substitutionStatus := 0 }
  let (first, rest) ← fill substitute words
  let o ← if first.isEmpty then pure { args := [], rest := [] } else
    openCommand substitute endless { args := first, rest }
  let isAssigning := o.own.any assigningCommands.contains
  let others ← o.rest.mapM fun w => do
    if isAssigning && w.assigns then pure [← expandAssignment substitute w] else expandFields substitute w
  let args := o.args ++ others.flatten
  let isSpecial := o.isSpecial = some true
  let isExec := o.own = some "exec"
  let isLocal := !args.isEmpty && !isSpecial
  let depth := (← get).locals.length
  if isLocal then pushLocals
  let ready ← redirections.mapM (readyRedirection substitute)
  let (saved, problem) ← redirectAll substitute true ready []
  let body : Act Unit := do
    match problem with
    | some .failure => do
      setStatus 2
      if isSpecial then throw .failure
    | some stop => throw stop
    | none => do
      let shown ← assignAll substitute isLocal (isExec && 1 < args.length) assignments
      traceCommand substitute (((saved.lookup 2).bind id).getD 2) (shown ++ args)
      match args, o.own with
      | [], _ => modify fun s => { s with status := s.substitutionStatus }
      | name :: rest, some own => do
        match ← (underName name (ownCommand run standing own rest)).attempt with
        | .error .failure => if isSpecial then throw .failure
        | .error e => throw e
        | .ok _ => pure ()
      | name :: rest, none => do
        let s ← get
        match if o.usesFunctions then s.functions.lookup name else none with
        | some body => callFunction run standing rest body
        | none => runProgram standing o args
  let outcome ← body.attempt
  restoreDescriptors isExec saved
  match outcome with
  | .error .exit => throw .exit
  | .error .finish => throw .finish
  | .error .failure => throw .failure
  | .error e => do
    popLocalsTo depth endless
    throw e
  | .ok _ => popLocalsTo depth endless

/-! ## Loops -/

/-- How a round of a loop ended. -/
inductive RoundEnd
  | whole
  | cut
  | last

/-- Carry out a round of a loop. What leaves more loops than one goes on to the loop around. -/
def round (task : Act Unit) : Act RoundEnd := do
  match ← task.attempt with
  | .ok _ => pure .whole
  | .error (.leaveLoop n) => if 1 < n then throw (.leaveLoop (n - 1)) else pure .last
  | .error (.nextRound n) => if 1 < n then throw (.nextRound (n - 1)) else pure .cut
  | .error e => throw e

/-- Carry out a task that is a loop. -/
def asLoop (task : Act Nat) : Act Unit := do
  modify fun s => { s with loops := s.loops + 1 }
  let status ← Task.thenAlways task (modify fun s => { s with loops := s.loops - 1 })
  setStatus status

/-- A loop that goes on while a condition holds, or until it does. -/
def loop (run : Evaluator) (inner : Standing) (stopOn : Bool) (condition body : Command) : Nat → Nat → Act Nat
  | 0, status => pure status
  | fuel + 1, status => do
    match ← round (run { tested := true } condition) with
    | .last => pure status
    | .cut => loop run inner stopOn condition body fuel status
    | .whole => do
      if ((← get).status == 0) == stopOn then pure status
      else
        match ← round (run inner body) with
        | .last => pure (← get).status
        | _ => loop run inner stopOn condition body fuel (← get).status

/-- A loop over words. -/
def forEach (run : Evaluator) (inner : Standing) (name : Octets) (body : Command) : List Octets → Nat → Act Nat
  | [], status => pure status
  | word :: rest, _ => do
    assign name word false
    match ← round (run inner body) with
    | .last => pure (← get).status
    | _ => forEach run inner name body rest (← get).status

/-- Carry out the first arm of a choice whose patterns match a text. -/
def choose (run : Evaluator) (standing : Standing) (text : Octets) :
    List (List Word × Option Command) → Act Unit
  | [] => setStatus 0
  | (patterns, body) :: rest => do
    let fits ← patterns.anyM fun w => do
      pure (patternMatches (patternOf (← expandPattern (substitution run) w)) text)
    if fits then
      match body with
      | some body => run standing body
      | none => setStatus 0
    else choose run standing text rest

/-! ## Copies -/

/-- Carry out redirections for good. -/
def redirectForGood (run : Evaluator) (ready : List ReadyRedirection) : Act Unit := do
  match ← redirectAll (substitution run) false ready [] with
  | (_, some stop) => throw stop
  | (_, none) => pure ()

/-- Start the commands of a pipeline, each of which reads what the one before writes; their numbers. -/
def startPipeline (run : Evaluator) (standing : Standing) (background : Bool) :
    List Command → Option Nat → List Nat → Act (List Nat)
  | [], _, started => pure started.reverse
  | c :: rest, before, started => do
    let after : Option (Nat × Nat) ← if rest.isEmpty then pure none else some <$> ask .pipe
    let child ← startCopy background started.isEmpty (lastly run (do
      if let some (source, _) := after then
        let _ ← ask (.close source)
      if let some source := before then moveDescriptor source 0
      if let some (_, sink) := after then
        if 1 < sink then moveDescriptor sink 1
      run { standing with exits := true } c))
    if let some source := before then
      let _ ← ask (.close source)
    if let some (_, sink) := after then
      let _ ← ask (.close sink)
    startPipeline run standing background rest (after.map (·.1)) (child :: started)

/-- Carry out a command in a copy of the shell. -/
def subshell (run : Evaluator) (standing : Standing) (c : Command) (redirections : List Redirection) : Act Unit := do
  let ready ← redirections.mapM (readyRedirection (substitution run))
  let inside (standing : Standing) : Act Unit := do
    redirectForGood run ready
    run { standing with exits := true } c
  if standing.exits && !hasTraps (← get) then
    beginCopy false false
    inside standing
  else
    let child ← startCopy false false (lastly run (inside standing))
    setStatus (← waitForAll [child])

/-- Carry out a command in the background. -/
def inBackground (run : Evaluator) (c : Command) (redirections : List Redirection) : Act Unit := do
  let ready ← redirections.mapM (readyRedirection (substitution run))
  let child ← startCopy true true (lastly run (do
    redirectForGood run ready
    run { exits := true } c))
  keepJob [child]
  setStatus 0

/-! ## All commands -/

/-- Another line of the script is carried out. -/
def atLine (line : Nat) : Act Unit := modify fun s => { s with line }

/-- Carry out a command of any kind, with a way to carry out the commands in it. -/
def command (run : Evaluator) (standing : Standing) (c : Command) : Act Unit :=
  let inner : Standing := { tested := standing.tested }
  match c with
  | .simple line assignments words redirections => simple run standing line assignments words redirections
  | .pipeline background commands => do
    let children ← startPipeline run standing background commands none []
    if background then
      keepJob children
      setStatus 0
    else do setStatus (← waitForAll children)
  | .negated c => do
    run { tested := true } c
    modify fun s => { s with status := if s.status = 0 then 1 else 0 }
  | .both a b => do
    run { tested := true } a
    if (← get).status = 0 then run standing b
  | .either a b => do
    run { tested := true } a
    if (← get).status ≠ 0 then run standing b
  | .sequence a b => do
    run inner a
    run standing b
  | .background line c redirections => do
    atLine line
    inBackground run c redirections
  | .subshell line c redirections => do
    atLine line
    subshell run standing c redirections
  | .redirected line c redirections => do
    atLine line
    let ready ← redirections.mapM (readyRedirection (substitution run))
    let (saved, problem) ← redirectAll (substitution run) true ready []
    Task.thenAlways (match problem with
      | some .failure => setStatus 2
      | some stop => throw stop
      | none => run inner c) (restoreDescriptors false saved)
  | .forEach line name words body => do
    atLine line
    let items ← words.mapM (expandFields (substitution run))
    asLoop (forEach run inner name body items.flatten 0)
  | .branch condition yes no => do
    run { tested := true } condition
    if (← get).status = 0 then run standing yes
    else
      match no with
      | some no => run standing no
      | none => setStatus 0
  | .loop stopOn condition body => asLoop (loop run inner stopOn condition body endless 0)
  | .choice line word arms => do
    atLine line
    let text ← expandText (substitution run) { home := true } word
    choose run standing text arms
  | .define line name body => do
    atLine line
    modify fun s => { s with functions := (name, body) :: s.functions.filter (·.1 ≠ name), status := 0 }

/-- The failure of such a command may end the shell. -/
def isChecked : Command → Bool
  | .simple .. => true
  | .pipeline .. => true
  | .subshell .. => true
  | .background .. => true
  | _ => false

/-- Microseconds that a command takes. -/
def commandTime : Nat := 1

/-- Carry out a command and look whether the shell has to end. -/
def step (run : Evaluator) (standing : Standing) (c : Command) : Act Unit := do
  let endIfFailed : Act Unit := do
    let s ← get
    if isChecked c && s.has 'e' && !standing.tested && s.status ≠ 0 then throw .finish
  unless (← get).has 'n' do
    let _ ← ask (.work commandTime)
    runTraps run
    match ← (command run standing c).attempt with
    | .ok _ => pure ()
    | .error .leaveFunction => do
      endIfFailed
      throw .leaveFunction
    | .error e => throw e
  runTraps run
  endIfFailed
  if standing.exits then throw .finish

/-- Carry out commands to a depth. -/
def evaluateTo : Nat → Evaluator
  | 0, _, _ => pure ()
  | depth + 1, standing, c => step (evaluateTo depth) standing c

/-- Carry out commands. -/
def evaluate : Evaluator := evaluateTo endless

end Act

end Diagnostics.Sandbox
