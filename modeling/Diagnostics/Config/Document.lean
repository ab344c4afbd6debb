import Diagnostics.Config
import Diagnostics.Error
import Diagnostics.Text.Utf8
import Diagnostics.Toml.Document

/-!
# Configuration documents

A configuration as a document. What the document does not set has its default, and what it sets beyond the
known fields is ignored. Policies for retries may also be written as a list of their fields in order.
-/

namespace Diagnostics

open Toml (Node Misread Fault Entries)

/-! ## Fields -/

/-- Stop at a value. -/
def Toml.Node.refuse (node : Node) (expected : String) : Except Misread α :=
  .error ⟨node.place, .wrongType expected⟩

namespace Toml.Node

/-- A whole number from zero up to a limit. -/
def nat (limit : Nat) : Node → Except Misread Nat
  | .whole place n =>
    if 0 ≤ n ∧ n ≤ limit then .ok n.toNat else (Node.whole place n).refuse "a number within bounds"
  | node => node.refuse "a whole number"

/-- A truth value. -/
def truth : Node → Except Misread Bool
  | .bool _ b => .ok b
  | node => node.refuse "true or false"

/-- A text. -/
def string : Node → Except Misread String
  | .text _ s => .ok s
  | node => node.refuse "a text"

/-- The bits of a number; a whole number is rounded to the nearest binary number. -/
def numberBits : Node → Except Misread UInt64
  | .real _ bits => .ok bits
  | .whole _ n => .ok (DecimalNumber.bits ⟨n < 0, n.natAbs, 0⟩)
  | node => node.refuse "a number"

end Toml.Node

/-! ## Records -/

namespace RetryPolicy

/-- The fields of a policy in order, and what each sets. -/
def fields : List (String × (RetryPolicy → Node → Except Misread RetryPolicy)) := [
  ("max_retries", fun p node => (node.nat Numeral.limit32).map fun n => { p with maxRetries := some (.ofNat n) }),
  ("initial_backoff_ms", fun p node => (node.nat Numeral.limit64).map fun n => { p with initialBackoff := n }),
  ("backoff_multiplier", fun p node => node.numberBits.map fun bits => { p with multiplierBits := bits }),
  ("max_backoff_ms", fun p node => (node.nat Numeral.limit64).map fun n => { p with maxBackoff := n })]

/-- Set the fields that a table names. -/
def ofEntries (entries : Entries) : Except Misread RetryPolicy :=
  entries.foldlM (fun p (name, node) =>
    match fields.lookup name with
    | some set => set p node
    | none => .ok p) default

/-- Set fields in order. -/
def ofItems (items : List Node) : Except Misread RetryPolicy :=
  (fields.zip items).foldlM (fun p ((_, set), node) => set p node) default

/-- A policy from a value. A date has no fields that a policy knows. -/
def ofNode : Node → Except Misread RetryPolicy
  | .table _ _ entries => ofEntries entries
  | .array _ items => ofItems items
  | .tables _ latestFirst => ofItems latestFirst.reverse
  | .moment _ => .ok default
  | node => node.refuse "a policy"

end RetryPolicy

namespace DiagnoseConfig

/-- The fields of a configuration and what each sets. -/
def fields : List (String × (DiagnoseConfig → Node → Except Misread DiagnoseConfig)) := [
  ("verbosity", fun c node => (node.nat Numeral.limit8).map fun n => { c with verbosity := n }),
  ("retry", fun c node => (RetryPolicy.ofNode node).map fun p => { c with retry := p }),
  ("scratch_dir", fun c node => node.string.map fun s => { c with scratchDir := some ⟨s⟩ }),
  ("scratch_suffix", fun c node => node.string.map fun s => { c with scratchSuffix := s }),
  ("merge_stderr", fun c node => node.truth.map fun b => { c with mergeStderr := b }),
  ("reader_grace_ms", fun c node => (node.nat Numeral.limit64).map fun n => { c with readerGrace := n })]

/-- Set the fields that a document names. -/
def ofEntries (entries : Entries) : Except Misread DiagnoseConfig :=
  entries.foldlM (fun c (name, node) =>
    match fields.lookup name with
    | some set => set c node
    | none => .ok c) {}

end DiagnoseConfig

/-! ## Texts and files -/

/-- Read a document and take from it what is wanted. -/
def Toml.readAs (take : Entries → Except Misread α) (text : String) : Except DiagnosticError α :=
  match (Toml.parse text.toList).bind take with
  | .ok value => .ok value
  | .error misread => .error (.toml (misread.locate text.toList))

/-- A policy from the text of a document. -/
def RetryPolicy.ofToml (text : String) : Except DiagnosticError RetryPolicy :=
  Toml.readAs RetryPolicy.ofEntries text

/-- A configuration from the text of a document. -/
def DiagnoseConfig.ofToml (text : String) : Except DiagnosticError DiagnoseConfig :=
  Toml.readAs DiagnoseConfig.ofEntries text

/-- The text of a file that was read as bytes. -/
def fileText (bytes : Except OsError (List UInt8)) : Except OsError String :=
  match bytes with
  | .error e => .error e
  | .ok bytes =>
    match Utf8.decode? bytes with
    | some text => .ok text
    | none => .error .notUtf8

/-- A configuration from what reading the file at a path gave. -/
def DiagnoseConfig.ofFile (path : Path) (bytes : Except OsError (List UInt8)) :
    Except DiagnosticError DiagnoseConfig :=
  match fileText bytes with
  | .error e => .error (.config ("Failed to read " ++ path.text ++ ": " ++ e.message))
  | .ok text => DiagnoseConfig.ofToml text

end Diagnostics
