import Diagnostics.Session
import Diagnostics.Text.Quoted

/-!
# Describing a session

A session in words for whoever looks for trouble: records by name with their fields, missing values said to
be missing, texts in quotes.
-/

namespace Diagnostics

namespace Describe

/-- A record. -/
def fields (name : String) (fields : List (String × String)) : String :=
  name ++ " \x7b " ++ String.intercalate ", " (fields.map fun (field, value) => field ++ ": " ++ value) ++ " \x7d"

/-- A value that may be missing. -/
def optional (describe : α → String) : Option α → String
  | some a => "Some(" ++ describe a ++ ")"
  | none => "None"

end Describe

/-- A policy in words. -/
def RetryPolicy.description (p : RetryPolicy) : String :=
  Describe.fields "RetryPolicy" [
    ("max_retries", Describe.optional (toString ·) p.maxRetries),
    ("initial_backoff_ms", toString p.initialBackoff),
    ("backoff_multiplier", Decimal.marked p.multiplier),
    ("max_backoff_ms", toString p.maxBackoff)]

/-- A configuration in words. -/
def DiagnoseConfig.description (c : DiagnoseConfig) : String :=
  Describe.fields "DiagnoseConfig" [
    ("verbosity", toString c.verbosity),
    ("retry", c.retry.description),
    ("scratch_dir", Describe.optional (fun dir => Quoted.text dir.text) c.scratchDir),
    ("scratch_suffix", Quoted.text c.scratchSuffix),
    ("merge_stderr", if c.mergeStderr then "true" else "false"),
    ("reader_grace_ms", toString c.readerGrace)]

/-- A session in words. -/
def Session.description (s : Session) : String :=
  Describe.fields "CompilerSession" [
    ("config", s.config.description),
    ("adaptive_timeout", Describe.optional Duration.text s.learned),
    ("cached", toString s.cacheSize)]

end Diagnostics
