import Diagnostics.Cli.Option
import Diagnostics.Path

/-!
# Commands

What the command line can ask for. Options that belong to no single command may stand before the command or
after it; if they stand in both places, the later one counts.
-/

namespace Diagnostics.Cli

/-- A compiler and the file that it is to be run on. -/
structure RunOptions where
  compiler : String
  args : List String
  file : Path
  timeout : Int
  interactive : Bool
  showCommand : Bool

/-- What is asked. -/
inductive Question
  | run (options : RunOptions)
  | hasError (output : Path) (pattern : Option String)
  | line (output : Path) (pattern : Option String)
  | body (output : Path) (pattern : Option String)
  | generalize (output : Path)

/-- What is asked, and how it is to be answered. -/
structure Invocation where
  verbosity : Nat
  config : Option Path
  json : Bool
  question : Question

/-! ## What may be written -/

/-- Options of all commands. -/
def commonOptions : List OptionSpec := [
  { name := "verbose", letter := some 'v', kind := .count },
  { name := "config", kind := .value .path .none false },
  { name := "json", kind := .flag },
  { name := "help", letter := some 'h', kind := .help }]

/-- The words before the command. -/
def programSpec : CommandSpec where
  name := "diagnose-error"
  options := { name := "version", letter := some 'V', kind := .version } :: commonOptions
  arguments := []

/-- Run a compiler. -/
def runSpec : CommandSpec where
  name := "run"
  options := [
    { name := "arg", kind := .value .text .all true },
    { name := "file", kind := .value .path .none false },
    { name := "timeout", kind := .value .integer .numbers false },
    { name := "interactive", kind := .flag },
    { name := "show-command", kind := .flag }] ++ commonOptions
  arguments := [("compiler", .text)]
  required := ["compiler", "file"]

/-- A question about captured output. -/
def outputSpec (name : String) (hasPattern : Bool) : CommandSpec where
  name := name
  options := (if hasPattern then [{ name := "pattern", kind := .value .text .none false }] else []) ++ commonOptions
  arguments := [("output", .path)]
  required := ["output"]

/-- All commands. -/
def commandSpecs : List CommandSpec :=
  [runSpec, outputSpec "has-error" true, outputSpec "line" true, outputSpec "body" true,
    outputSpec "generalize" false]

/-- Asks for help, about one command or about all. -/
def helpCommand : String := "help"

/-! ## What is asked -/

/-- The question of a command. -/
def Question.ofMatches? (command : String) (m : Matches) : Option Question :=
  let output : Path := ⟨(m.get? "output").getD ""⟩
  let pattern := m.get? "pattern"
  match command with
  | "run" => some (.run {
      compiler := (m.get? "compiler").getD "", args := m.all "arg", file := ⟨(m.get? "file").getD ""⟩
      timeout := ((m.get? "timeout").bind Numeral.readSigned?).getD (-1)
      interactive := m.has "interactive", showCommand := m.has "show-command" })
  | "has-error" => some (.hasError output pattern)
  | "line" => some (.line output pattern)
  | "body" => some (.body output pattern)
  | "generalize" => some (.generalize output)
  | _ => none

/-- The invocation that words before a command, and those of the command, ask for. -/
def Invocation.ofMatches? (command : String) (before after : Matches) : Option Invocation := do
  let verbose := if after.has "verbose" then after.all "verbose" else before.all "verbose"
  pure {
    verbosity := min verbose.length Numeral.limit8
    config := ((after.get? "config").or (before.get? "config")).map (⟨·⟩)
    json := after.has "json" || before.has "json"
    question := ← Question.ofMatches? command after }

/-- Asking for help about commands that there are. -/
def readHelp : List String → Stop
  | [] => .help
  | [name] => if name = helpCommand ∨ (commandSpecs.any (·.name = name)) then .help else .usage
  | _ => .usage

/-- Read a command line. -/
def Invocation.parse (words : List String) : Except Stop Invocation := do
  let (before, left) ← readWords programSpec (helpCommand :: commandSpecs.map (·.name)) false { found := [] } words
  match left with
  | [] => .error .usage
  | name :: words =>
    if name = helpCommand then .error (readHelp words)
    else
      match commandSpecs.find? (·.name = name) with
      | none => .error .usage
      | some c =>
        match Invocation.ofMatches? name before (← readCommand c words) with
        | some invocation => pure invocation
        | none => .error .usage

end Diagnostics.Cli
