import Diagnostics.Generalize
import Diagnostics.Table

/-!
# Remembered answers

Minimization asks the same questions about the same outputs again and again. A memo keeps the answers, one
table for each question. Errors are not kept, so a question that failed is asked anew.
-/

namespace Diagnostics

/-- The tables of the four questions. Questions about a pattern are told apart by its source text. -/
structure DiagnosticMemo where
  present : Table (String × String) Bool := []
  lines : Table (String × String) Nat := []
  bodies : Table (String × String) String := []
  patterns : Table String ErrorPattern := []

namespace DiagnosticMemo

/-- A memo without answers. -/
def empty : DiagnosticMemo := {}

/-- Whether the pattern matches; the answer is always kept. -/
def hasError (m : DiagnosticMemo) (p : ErrorPattern) (output : String) : Bool × DiagnosticMemo :=
  match m.present.get? (output, p.source) with
  | some answer => (answer, m)
  | none =>
    let answer := p.hasError output
    (answer, { m with present := m.present.keep (output, p.source) answer })

/-- The line number. -/
def lineNumber (m : DiagnosticMemo) (p : ErrorPattern) (output : String) :
    Except DiagnosticError Nat × DiagnosticMemo :=
  let (answer, lines) := m.lines.ask (output, p.source) fun _ => p.lineNumber output
  (answer, { m with lines })

/-- The text of the error. -/
def errorBody (m : DiagnosticMemo) (p : ErrorPattern) (output : String) :
    Except DiagnosticError String × DiagnosticMemo :=
  let (answer, bodies) := m.bodies.ask (output, p.source) fun _ => p.errorBody output
  (answer, { m with bodies })

/-- The pattern of the error. -/
def generalize (m : DiagnosticMemo) (output : String) :
    Except DiagnosticError ErrorPattern × DiagnosticMemo :=
  let (answer, patterns) := m.patterns.ask output fun _ => Diagnostics.generalize output
  (answer, { m with patterns })

/-- The number of answers kept. -/
def size (m : DiagnosticMemo) : Nat :=
  m.present.length + m.lines.length + m.bodies.length + m.patterns.length

/-- No answer is kept. -/
def isEmpty (m : DiagnosticMemo) : Bool := m.size == 0

/-- Forget every answer. -/
def clear (_ : DiagnosticMemo) : DiagnosticMemo := empty

end DiagnosticMemo

end Diagnostics
