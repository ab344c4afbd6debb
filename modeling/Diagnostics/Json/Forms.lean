import Diagnostics.Family
import Diagnostics.Json
import Diagnostics.Pattern
import Diagnostics.Session.Request

/-!
# JSON forms

What the domain's types look like in JSON. A choice without content is its name, a choice with content is an
object with the name as its only field. Reading accepts a little more than writing makes: an object with a
null for a choice without content, and an array for a record.
-/

namespace Diagnostics

open Json (whole str arr obj)

/-- The name and the content of a choice. -/
def Json.choice? : Json → Option (String × Option Json)
  | str name => some (name, none)
  | obj [(name, content)] => some (name, some content)
  | _ => none

/-- The name of a choice that has no content. -/
def Json.plainChoice? (j : Json) : Option String :=
  match j.choice? with
  | some (name, none) => some name
  | some (name, some .null) => some name
  | _ => none

namespace Duration

def toJson (d : Duration) : Json := obj [("secs", whole d.seconds), ("nanos", whole d.nanos)]

/-- Nanoseconds beyond a second are carried over, as far as the seconds fit 64 bits. -/
def ofJson? (j : Json) : Option Duration := do
  match ← j.record? ["secs", "nanos"] false with
  | [secs, nanos] =>
    let d := ofParts (← secs.nat? Numeral.limit64) (← nanos.nat? Numeral.limit32)
    if d.seconds ≤ Numeral.limit64 then some d else none
  | _ => none

end Duration

namespace TimeoutSpec

def toJson : TimeoutSpec → Json
  | adaptive => str "adaptive"
  | unbounded => str "unbounded"
  | limit d => obj [("limit", d.toJson)]

def ofJson? (j : Json) : Option TimeoutSpec :=
  match j.plainChoice? with
  | some "adaptive" => some adaptive
  | some "unbounded" => some unbounded
  | _ =>
    match j.choice? with
    | some ("limit", some d) => (Duration.ofJson? d).map limit
    | _ => none

end TimeoutSpec

namespace InvocationMode

def name : InvocationMode → String
  | batch => "batch"
  | interactive => "interactive"

def toJson (m : InvocationMode) : Json := str m.name

def ofJson? (j : Json) : Option InvocationMode :=
  match j.plainChoice? with
  | some "batch" => some batch
  | some "interactive" => some interactive
  | _ => none

end InvocationMode

namespace DiagnosticFamily

def toJson (f : DiagnosticFamily) : Json := str f.name

def ofJson? (j : Json) : Option DiagnosticFamily := j.plainChoice?.bind ofName?

end DiagnosticFamily

namespace ErrorRecord

def toJson (r : ErrorRecord) : Json := obj [("line", whole r.line), ("body", str r.body)]

def ofJson? (j : Json) : Option ErrorRecord := do
  match ← j.record? ["line", "body"] true with
  | [line, body] => some { line := ← line.nat? Numeral.limit64, body := ← body.str? }
  | _ => none

end ErrorRecord

namespace CompilerOutput

def toJson (o : CompilerOutput) : Json :=
  obj [("output", str o.output), ("command_line", arr (o.commandLine.map str))]

def ofJson? (j : Json) : Option CompilerOutput := do
  match ← j.record? ["output", "command_line"] true with
  | [output, commandLine] => some { output := ← output.str?, commandLine := ← commandLine.strs? }
  | _ => none

end CompilerOutput

end Diagnostics
