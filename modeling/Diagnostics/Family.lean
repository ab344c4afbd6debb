import Diagnostics.Text.Find

/-!
# Families of errors

Some errors of the compiler carry detail of varying length. The family of an error is told by a phrase in
its text; the first phrase that occurs decides.
-/

namespace Diagnostics

/-- The families that are generalized each in a way of its own, and all the rest. -/
inductive DiagnosticFamily
  | universeInconsistency
  | unsatisfiedConstraints
  | unsatisfiableConstraints
  | other
  deriving DecidableEq

namespace DiagnosticFamily

/-- The phrase of a universe inconsistency. -/
def universePhrase : String := "Universe inconsistency"

/-- The phrase of constraints that a tactic left behind. -/
def unsatisfiedPhrase : String := "Unsatisfied constraints"

/-- The phrase of constraints that have no solution. -/
def unsatisfiablePhrase : String := "Unable to satisfy the following constraints"

/-- The family of an error text. -/
def classify (body : String) : DiagnosticFamily :=
  if occursIn universePhrase.toList body.toList then universeInconsistency
  else if occursIn unsatisfiedPhrase.toList body.toList then unsatisfiedConstraints
  else if occursIn unsatisfiablePhrase.toList body.toList then unsatisfiableConstraints
  else other

/-- The name of a family. -/
def name : DiagnosticFamily → String
  | universeInconsistency => "universe_inconsistency"
  | unsatisfiedConstraints => "unsatisfied_constraints"
  | unsatisfiableConstraints => "unsatisfiable_constraints"
  | other => "other"

/-- The family of a name. -/
def ofName? : String → Option DiagnosticFamily
  | "universe_inconsistency" => some universeInconsistency
  | "unsatisfied_constraints" => some unsatisfiedConstraints
  | "unsatisfiable_constraints" => some unsatisfiableConstraints
  | "other" => some other
  | _ => none

end DiagnosticFamily

end Diagnostics
