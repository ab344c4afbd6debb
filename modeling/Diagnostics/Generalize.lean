import Diagnostics.Pattern
import Diagnostics.Rewrite

/-!
# From one error to its pattern

The pattern of the error in an output: the usual header, and the trimmed error text with its passing details
written over.
-/

namespace Diagnostics

/-- The source text for the second group of a pattern that recognises an error text. -/
def generalizeBody (body : String) : String :=
  String.ofList (Rewrite.body (DiagnosticFamily.classify body) body.toList)

/-- A pattern for the error that the default pattern finds in the output. -/
def generalize (output : String) : Except DiagnosticError ErrorPattern := do
  let body ← ErrorPattern.default.errorBody output
  ErrorPattern.ofBody (generalizeBody (Unicode.trim body))

end Diagnostics
