import Diagnostics.Sandbox.Tool.Print
import Diagnostics.Sandbox.Tool.Wait

/-!
# Tools that run commands

Tools that run a command in another environment, in a session of its own, with signals ignored, or with words that are
read from the input.
-/

namespace Diagnostics.Sandbox

namespace Work

/-- Change a variable of the environment. -/
def bind (environment : Bindings) (name value : Octets) : Bindings :=
  if environment.any (·.1 == name) then environment.map fun b => if b.1 = name then (name, value) else b
  else environment ++ [(name, value)]

/-- Run a command in another environment, or print the environment. -/
def env (args : List Octets) : Work Nat := do
  let (settings, words) ← readLeadingOptions
    [⟨some 'i', "ignore-environment", .nothing⟩, ⟨some '0', "null", .nothing⟩, ⟨some 'u', "unset", .word⟩,
      ⟨some 'C', "chdir", .word⟩, ⟨some 'S', "split-string", .word⟩, ⟨some 'v', "debug", .nothing⟩] args
  let (clears, words) := match words with
    | ['-'] :: rest => (true, rest)
    | words => (settings.has "ignore-environment", words)
  let split := ((settings.last? "split-string").map fun cs =>
    ((String.ofList cs).splitOn " ").filterMap fun w => if w.isEmpty then none else some w.toList).getD []
  let words := split ++ words
  let inherited := (← get).environment
  let start := if clears then [] else inherited
  let unset := settings.filterMap fun (name, value) => if name == "unset" then value else none
  let start := start.filter fun b => !unset.contains b.1
  let isBinding (w : Octets) : Bool := w.contains '='
  let environment := (words.takeWhile isBinding).foldl (fun e w =>
    bind e (w.takeWhile (· != '=')) ((w.dropWhile (· != '=')).drop 1)) start
  match words.dropWhile isBinding with
  | [] => do
    let ending := if settings.has "null" then '\x00' else '\n'
    environment.forM fun (name, value) => print (name ++ '=' :: value ++ [ending])
    pure 0
  | command => do
    if settings.has "null" then misuse "cannot specify --null (-0) with command".toList
    match settings.last? "chdir" with
    | some dir =>
      match ← ask (.changeDirectory dir) with
      | .ok _ => pure ()
      | .error e => fail ("cannot change directory to ".toList ++ quoteName dir ++ ": ".toList ++ e.words.toList)
    | none => pure ()
    modify fun t => { t with environment }
    becomeOrFail "" command environment

/-- Run a command in a session of its own. -/
def setsid (args : List Octets) : Work Nat := do
  let (settings, command) ← readLeadingOptions
    [⟨some 'c', "ctty", .nothing⟩, ⟨some 'f', "fork", .nothing⟩, ⟨some 'w', "wait", .nothing⟩] args
  match command with
  | [] => do
    complain "no command specified".toList
    pointToHelp
  | name :: _ => do
    let t ← get
    let running : Work Nat := do
      let _ ← ask .newSession
      let e ← become command t.environment
      complain ("failed to execute ".toList ++ name ++ ": ".toList ++ e.words.toList)
      throw (if e = .noSuchFile then 127 else 126)
    let me : Identity ← ask .identity
    if me.group = me.process || settings.has "fork" then
      let child ← Task.start (Task.program running t id)
      if settings.has "wait" then
        match ← ask (.wait (.process child) true) with
        | .ok (some (_, status)) => pure status.code
        | _ => pure 0
      else pure 0
    else running

/-- Run a command that goes on when the terminal is gone. -/
def nohup (args : List Octets) : Work Nat := do
  let (_, command) ← readLeadingOptions [] args
  if command.isEmpty then missingOperand
  let _ ← ask (.react 1 .ignore)
  becomeOrFail "failed to run command " command (← get).environment

/-- Run a command that has priority, or has not. -/
def nice (args : List Octets) : Work Nat := do
  let (_, command) ← readLeadingOptions [⟨some 'n', "adjustment", .word⟩] args
  if command.isEmpty then
    printLine ['0']
    pure 0
  else becomeOrFail "" command (← get).environment

/-! ## Words from the input -/

/-- Split a text into words, in which quotes and backslashes may stand. -/
def splitWords : Nat → Octets → Option Octets → List Octets → Except String (List Octets)
  | 0, _, _, seen => .ok seen.reverse
  | fuel + 1, cs, current, seen =>
    let done := match current with
      | some w => w.reverse :: seen
      | none => seen
    match cs with
    | [] => .ok done.reverse
    | '\\' :: c :: rest => splitWords fuel rest (some (c :: current.getD [])) seen
    | c :: rest =>
      if c = ' ' || c = '\t' || c = '\n' then splitWords fuel rest none done
      else if c = '"' || c = '\'' then
        let inside := rest.takeWhile fun d => d != c && d != '\n'
        match rest.drop inside.length with
        | d :: left =>
          if d = c then splitWords fuel left (some (inside.reverse ++ current.getD [])) seen
          else .error (if c = '"' then "unmatched double quote" else "unmatched single quote")
        | [] => .error (if c = '"' then "unmatched double quote" else "unmatched single quote")
      else splitWords fuel rest (some (c :: current.getD [])) seen

/-- Put a word where a sign stands. -/
def substituteSign (sign word : Octets) : Nat → Octets → Octets
  | 0, cs => cs
  | _, [] => []
  | fuel + 1, c :: rest =>
    if sign.isPrefixOf (c :: rest) then word ++ substituteSign sign word fuel ((c :: rest).drop sign.length)
    else c :: substituteSign sign word fuel rest

/-- Run a command and wait for it; its status. -/
def runChild (command : List Octets) : Work WaitStatus := do
  flush
  let t ← get
  let running : Work Nat := do
    let _ ← ask (.close 0)
    let _ ← ask (.openFile "/dev/null".toList { reads := true } 0)
    let e ← become command t.environment
    complain (command.headD [] ++ ": ".toList ++ e.words.toList)
    throw (if e = .noSuchFile then 127 else 126)
  let child ← Task.start (Task.program running t id)
  match ← ask (.wait (.process child) true) with
  | .ok (some (_, status)) => pure status
  | _ => pure (.exited 0)

/-- So many words in a group. -/
def chunks (n : Nat) : Nat → List α → List (List α)
  | 0, _ => []
  | fuel + 1, l => if l.isEmpty then [] else l.take n :: chunks n fuel (l.drop n)

/-- The words of lines. -/
def wordsOfLines (lines : List Octets) : List Octets :=
  lines.flatMap fun l => (splitWords (l.length + 1) l none []).toOption.getD []

/-- Run a command with words from the input. -/
def xargs (args : List Octets) : Work Nat := do
  let (settings, command) ← readLeadingOptions
    [⟨some '0', "null", .nothing⟩, ⟨some 'd', "delimiter", .word⟩, ⟨some 'I', "replace-str", .word⟩,
      ⟨some 'i', "replace", .maybeWord⟩, ⟨some 'L', "max-lines", .word⟩, ⟨some 'n', "max-args", .word⟩,
      ⟨some 'P', "max-procs", .word⟩, ⟨some 'r', "no-run-if-empty", .nothing⟩, ⟨some 's', "max-chars", .word⟩,
      ⟨some 't', "verbose", .nothing⟩, ⟨some 'x', "exit", .nothing⟩, ⟨some 'a', "arg-file", .word⟩,
      ⟨some 'E', "eof", .word⟩, ⟨some 'p', "interactive", .nothing⟩] args
  let command := if command.isEmpty then ["echo".toList] else command
  let content ← match ← contentOf ((settings.last? "arg-file").getD ['-']) with
    | .ok content => pure content
    | .error e => fail (e.words.toList)
  let sign := (settings.last? "replace-str").or
    (if settings.has "replace" then some ((settings.last? "replace").getD "\x7b\x7d".toList) else none)
  let lines := (linesOf content).map bare
  let delimiter := if settings.has "null" then some '\x00' else
    (settings.last? "delimiter").map fun cs => match cs with
      | ['\\', c] => (letterEscape? c).getD c
      | cs => cs.headD '\n'
  let words ← match delimiter, sign with
    | some d, _ =>
      let parts := ((String.ofList content).splitOn (String.ofList [d])).map String.toList
      pure (if parts.getLast? = some [] then parts.dropLast else parts)
    | none, some _ =>
      pure ((lines.map fun l => l.dropWhile fun c => c == ' ' || c == '\t').filter fun l => l != [])
    | none, none =>
      match splitWords (content.length + 1) content none [] with
      | .ok words => pure words
      | .error e => fail ((e ++ "; by default quotes are special to xargs unless you use the -0 option").toList)
  let number (name : String) : Option Nat := (settings.last? name).map fun cs => (takeNumeral 10 0 cs).1
  let groups : List (List Octets) :=
    match sign with
    | some sign => words.map fun w => command.map fun a => substituteSign sign w (a.length + 1) a
    | none =>
      let groups := match number "max-lines", number "max-args" with
        | some n, _ =>
          (chunks n (lines.length + 1) (lines.filter fun l => l != [])).map wordsOfLines
        | none, some n => chunks (max n 1) (words.length + 1) words
        | none, none => if words.isEmpty then [] else [words]
      if groups.isEmpty && !settings.has "no-run-if-empty" then [command] else groups.map (command ++ ·)
  let runOne (status : Nat) (group : List Octets) : Work Nat := do
    if settings.has "verbose" then mutter ([' '].intercalate group ++ ['\n'])
    match ← runChild group with
    | .exited 0 => pure status
    | .exited 255 => do
      complain (group.headD [] ++ ": exited with status 255; aborting".toList)
      throw 124
    | .exited 127 => throw 127
    | .exited 126 => throw 126
    | .exited _ => pure 123
    | .killed n => do
      complain (group.headD [] ++ ": terminated by signal ".toList ++ (toString n).toList)
      throw 125
    | .stopped _ => pure status
  groups.foldlM runOne 0

/-! ## Signals -/

/-- Send a signal to processes. -/
def kill (args : List Octets) : Work Nat := do
  let (name, rest) := match args with
    | ['-', 's'] :: name :: rest => (some name, rest)
    | ['-', 'n'] :: name :: rest => (some name, rest)
    | ['-', '-'] :: rest => (none, rest)
    | ('-' :: cs) :: rest => (some cs, rest)
    | rest => (none, rest)
  if name = some ['l'] then
    ((List.range 32).drop 1).forM fun n => print (signalName n ++ [if n = 31 then '\n' else ' '])
    pure 0
  else
    let signal ← match name with
      | none => pure 15
      | some name =>
        match signalOf? (if "SIG".toList.isPrefixOf name then name.drop 3 else name) with
        | some n => pure n
        | none => fail ("unknown signal ".toList ++ name)
    if rest.isEmpty then fail "not enough arguments".toList
    rest.forM fun target => do
      match takeSigned (some 10) target with
      | some (n, []) =>
        match ← ask (.kill n signal) with
        | .ok _ => pure ()
        | .error e => blame ("sending signal to ".toList ++ target ++ " failed: ".toList ++ e.words.toList)
      | _ => blame ("failed to parse argument: ".toList ++ quoteWord target)
    status

end Work

end Diagnostics.Sandbox
