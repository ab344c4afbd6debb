import Diagnostics.Cli.Command
import Diagnostics.Config.Document
import Diagnostics.Generalize
import Diagnostics.Json
import Diagnostics.Sandbox.Studio

/-!
# Answers

The answer to a command line is a status, a text, and, if something failed, what failed. Compilers are run in
a sandbox; files that the command line names are read by whoever asks.
-/

namespace Diagnostics.Cli

/-- The answer to a command line. -/
structure Answer where
  status : Nat
  text : String := ""
  failure : Option String := none

/-- How a file is read. -/
abbrev Reader := Path → Except OsError (List UInt8)

/-- The name of the program and its version. -/
def versionText : String := "diagnose-error 0.1.0\n"

/-- Reading stopped before there was a question. -/
def Answer.ofStop : Stop → Answer
  | .usage => { status := 2 }
  | .help => { status := 0 }
  | .version => { status := 0, text := versionText }

/-! ## Input -/

/-- The text of a file that a command line names. -/
def readFile (read : Reader) (path : Path) : Except String String :=
  match fileText (read path) with
  | .ok text => .ok text
  | .error _ => .error ("Failed to read " ++ path.text)

/-- Captured output, with line breaks in canonical form. -/
def readOutput (read : Reader) (path : Path) : Except String String :=
  (readFile read path).map LineBreaks.canonical

/-- Keep the words of an error only. -/
def inWords : Except DiagnosticError α → Except String α
  | .ok a => .ok a
  | .error e => .error e.message

/-- The pattern with a source text, or the default pattern. -/
def patternOf : Option String → Except String ErrorPattern
  | some source => inWords (ErrorPattern.ofSource source)
  | none => .ok ErrorPattern.default

/-- The configuration for an invocation. -/
def configOf (read : Reader) (env : Environment) (i : Invocation) : Except String DiagnoseConfig := do
  let config ← match i.config with
    | some path => inWords (DiagnoseConfig.ofFile path (read path))
    | none => pure {}
  let config := config.withEnvironment env
  pure { config with verbosity := min Numeral.limit8 (config.verbosity + i.verbosity) }

/-! ## Output -/

/-- A value on a line of its own: as it is, or as the only field of an object. -/
def shown (json : Bool) (field : String) (value : Json) (plain : String) : String :=
  (if json then (Json.obj [(field, value)]).compact else plain) ++ "\n"

/-- What is shown of a compiler's output. -/
def shownRun (json showCommand : Bool) (o : CompilerOutput) : String :=
  if json then
    (Json.obj [
      ("command_line", .arr (o.commandLine.map .str)),
      ("output", .str o.output),
      ("timed_out", .bool o.timedOut)]).pretty ++ "\n"
  else (if showCommand then formatCommandLine o.commandLine ++ "\n" else "") ++ o.output

/-- A truth value in words. -/
def truthText (b : Bool) : String := if b then "true" else "false"

/-! ## Answers -/

/-- The request of a run for the contents of its file. -/
def requestOf (o : RunOptions) (contents : String) : CompileRequest where
  program := o.compiler
  args := o.args
  contents := contents
  timeout := TimeoutSpec.ofSeconds o.timeout
  mode := if o.interactive then .interactive else .batch

/-- Run a compiler. -/
def answerRun (config : DiagnoseConfig) (read : Reader) (studio : Studio) (json : Bool) (o : RunOptions) :
    Except String String := do
  let contents ← readFile read o.file
  let workshop := Studio.workshop config Studio.systemTemp Studio.logEvent
  let (result, _, _) := (Session.fresh config).getOutput workshop (requestOf o contents) studio
  pure (shownRun json o.showCommand (← inWords result))

/-- Answer a question. -/
def answerQuestion (config : DiagnoseConfig) (read : Reader) (studio : Studio) (json : Bool) :
    Question → Except String String
  | .run options => answerRun config read studio json options
  | .hasError output pattern => do
    let text ← readOutput read output
    let found := (← patternOf pattern).hasError text
    pure (shown json "has_error" (.bool found) (truthText found))
  | .line output pattern => do
    let text ← readOutput read output
    let line ← inWords ((← patternOf pattern).lineNumber text)
    pure (shown json "line" (.whole line) (toString line))
  | .body output pattern => do
    let text ← readOutput read output
    let body ← inWords ((← patternOf pattern).errorBody text)
    pure (shown json "body" (.str body) body)
  | .generalize output => do
    let text ← readOutput read output
    let pattern ← inWords (Diagnostics.generalize text)
    pure (shown json "pattern" (.str pattern.source) pattern.source)

/-- The files that an invocation reads. -/
def Invocation.files (i : Invocation) : List Path :=
  i.config.toList ++
    match i.question with
    | .run options => [options.file]
    | .hasError output _ => [output]
    | .line output _ => [output]
    | .body output _ => [output]
    | .generalize output => [output]

/-- Answer an invocation. -/
def Invocation.answer (i : Invocation) (read : Reader) (env : Environment) (studio : Studio) : Answer :=
  let result := do
    let config ← configOf read env i
    answerQuestion config read studio i.json i.question
  match result with
  | .ok text => { status := 0, text }
  | .error failure => { status := 1, failure := some ("Error: " ++ failure) }

/-- Answer a command line. -/
def answer (words : List String) (read : Reader) (env : Environment) (studio : Studio) : Answer :=
  match Invocation.parse words with
  | .ok i => i.answer read env studio
  | .error stop => Answer.ofStop stop

end Diagnostics.Cli
