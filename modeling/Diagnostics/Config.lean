import Diagnostics.Launch.RetryPolicy
import Diagnostics.Path
import Diagnostics.Text.Numeral
import Diagnostics.Unicode.Space

/-!
# Configuration

Defaults, and the environment variables that override them. A variable whose text cannot be read changes
nothing.
-/

namespace Diagnostics

/-- The settings of a session. -/
structure DiagnoseConfig where
  verbosity : Nat := 1
  retry : RetryPolicy := RetryPolicy.default
  scratchDir : Option Path := none
  scratchSuffix : String := ".v"
  mergeStderr : Bool := true
  readerGrace : Nat := 500

/-- Environment variables by name. -/
abbrev Environment := List (String × String)

namespace DiagnoseConfig

/-- How long output is waited for after a kill. -/
def readerGraceDuration (c : DiagnoseConfig) : Duration := Duration.ofMilliseconds c.readerGrace

/-- A level of verbosity. -/
def overrideVerbosity (c : DiagnoseConfig) (text : String) : DiagnoseConfig :=
  match Numeral.read? Numeral.limit8 text with
  | some v => { c with verbosity := v }
  | none => c

/-- A wait between launches in milliseconds. The ceiling is raised to it if it is lower. -/
def overrideBackoff (c : DiagnoseConfig) (text : String) : DiagnoseConfig :=
  match Numeral.read? Numeral.limit64 text with
  | some ms => { c with retry := { c.retry with initialBackoff := ms, maxBackoff := max c.retry.maxBackoff ms } }
  | none => c

/-- A text in small letters of ASCII. -/
def lowerAscii (s : String) : String := String.ofList (s.toList.map Char.toLower)

/-- A largest count of retries. No text, or the word for it, takes the bound away. -/
def overrideRetries (c : DiagnoseConfig) (text : String) : DiagnoseConfig :=
  let text := Unicode.trim text
  if text.isEmpty ∨ lowerAscii text = "unbounded" then { c with retry := { c.retry with maxRetries := none } }
  else
    match Numeral.read? Numeral.limit32 text with
    | some n => { c with retry := { c.retry with maxRetries := some (.ofNat n) } }
    | none => c

/-- A directory for scratch files. -/
def overrideScratchDir (c : DiagnoseConfig) (text : String) : DiagnoseConfig :=
  { c with scratchDir := some ⟨text⟩ }

/-- A suffix of scratch files. -/
def overrideScratchSuffix (c : DiagnoseConfig) (text : String) : DiagnoseConfig :=
  { c with scratchSuffix := text }

/-- The variables and what each overrides. -/
def overrides : List (String × (DiagnoseConfig → String → DiagnoseConfig)) := [
  ("DIAGNOSE_VERBOSITY", overrideVerbosity),
  ("DIAGNOSE_RETRY_BACKOFF_MS", overrideBackoff),
  ("DIAGNOSE_MAX_LAUNCH_RETRIES", overrideRetries),
  ("DIAGNOSE_SCRATCH_DIR", overrideScratchDir),
  ("DIAGNOSE_SCRATCH_SUFFIX", overrideScratchSuffix)]

/-- Lay the environment over a configuration. -/
def withEnvironment (c : DiagnoseConfig) (env : Environment) : DiagnoseConfig :=
  overrides.foldl (fun c (name, set) =>
    match env.lookup name with
    | some text => set c text
    | none => c) c

end DiagnoseConfig

end Diagnostics
