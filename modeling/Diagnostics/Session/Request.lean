import Diagnostics.Path
import Diagnostics.Process.Run
import Diagnostics.Session.Timeout

/-!
# Requests for compiler output

A request names a compiler, its arguments and the source text to feed it. The compiler gets the text in a
file, named in full or, in the interactive toplevel, without its extension.
-/

namespace Diagnostics

/-- How the compiler gets the source file. -/
inductive InvocationMode
  | batch
  | interactive
  deriving DecidableEq

/-- What is asked of the compiler. -/
structure CompileRequest where
  program : String
  args : List String := []
  contents : String
  timeout : TimeoutSpec := .adaptive
  mode : InvocationMode := .batch
  logThreshold : Nat := 1
  deriving DecidableEq

/-- Keeps the compiler from printing a banner. -/
def quietFlag : String := "-q"

/-- Makes the interactive toplevel load a source file by its stem. -/
def loadSourceFlag : String := "-load-vernac-source"

namespace CompileRequest

/-- The words that hand over the source file. -/
def fileWords (r : CompileRequest) (file : Path) : List String :=
  match r.mode with
  | .batch => [file.text]
  | .interactive => [loadSourceFlag, file.withoutExtension.text]

/-- The command line for a source file. -/
def commandLine (r : CompileRequest) (file : Path) : List String :=
  r.program :: r.args ++ r.fileWords file ++ [quietFlag]

end CompileRequest

/-- A command line as logs show it: every word in quotes, whatever it holds. -/
def formatCommandLine (words : List String) : String := "\"" ++ String.intercalate "\" \"" words ++ "\""

/-- What the compiler printed, in canonical form, and the command line that made it. -/
structure CompilerOutput where
  output : String
  commandLine : List String
  deriving DecidableEq

/-- The output ends like that of a killed run. -/
def CompilerOutput.timedOut (o : CompilerOutput) : Bool :=
  timeoutMarker.toList.isSuffixOf o.output.toList

end Diagnostics
