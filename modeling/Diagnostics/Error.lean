import Diagnostics.Launch.OsError
import Diagnostics.Regex.Syntax
import Diagnostics.Toml.Error

/-!
# Errors

One type for all that can go wrong, by cause, with one function for the wording and one for the short code that
programs tell causes apart by. Only failures of the operating system can be transient.
-/

namespace Diagnostics

/-- What went wrong. -/
inductive DiagnosticError
  | noMatch (pattern : String)
  | invalidPattern (pattern : String) (cause : Regex.SyntaxError)
  | invalidLineNumber (text : String)
  | launchFailed (program : String) (cause : OsError)
  | retriesExhausted (program : String) (attempts : UInt32) (cause : OsError)
  | scratch (reason : String)
  | config (reason : String)
  | io (cause : OsError)
  | toml (cause : Toml.TomlError)
  deriving DecidableEq

namespace DiagnosticError

/-- Patterns are shown up to this many characters. -/
def excerptLength : Nat := 200

/-- A pattern as messages show it: whole if it is short, else its start and its size in bytes. -/
def excerpt (pattern : String) : String :=
  if pattern.length ≤ excerptLength then pattern
  else
    String.ofList (pattern.toList.take excerptLength) ++ "... (" ++ toString pattern.utf8ByteSize
      ++ " bytes total)"

/-- The error in words. -/
def message : DiagnosticError → String
  | noMatch pattern => "Output does not match error pattern: " ++ excerpt pattern
  | invalidPattern pattern cause => "Invalid error pattern " ++ excerpt pattern ++ ": " ++ cause.message
  | invalidLineNumber text => "Invalid line number in diagnostic: " ++ text
  | launchFailed program cause => "Failed to launch " ++ program ++ ": " ++ cause.message
  | retriesExhausted program attempts cause =>
    "Failed to launch " ++ program ++ " after " ++ toString attempts ++ " attempts: " ++ cause.message
  | scratch reason => "Scratch file error: " ++ reason
  | config reason => "Configuration error: " ++ reason
  | io cause => "IO error: " ++ cause.message
  | toml cause => "TOML error: " ++ cause.message

/-- The short code of the cause. -/
def code : DiagnosticError → String
  | noMatch _ => "NO_MATCH"
  | invalidPattern .. => "INVALID_PATTERN"
  | invalidLineNumber _ => "INVALID_LINE_NUMBER"
  | launchFailed .. => "LAUNCH_FAILED"
  | retriesExhausted .. => "LAUNCH_RETRIES_EXHAUSTED"
  | scratch _ => "SCRATCH_ERROR"
  | config _ => "CONFIG_ERROR"
  | io _ => "IO_ERROR"
  | toml _ => "TOML_ERROR"

/-- Trying again may help. -/
def isTransient : DiagnosticError → Bool
  | retriesExhausted _ _ cause => cause.isTransient
  | io cause => cause.isTransient
  | _ => false

end DiagnosticError

end Diagnostics
