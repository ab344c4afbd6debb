import Diagnostics.Error
import Diagnostics.Regex.Search
import Diagnostics.Text.Numeral

/-!
# Error patterns

An error pattern recognises one error in captured output. Its first group is the line number and its second
the text of the error. The default pattern takes any error: a header `File "…", line …, characters …:` on a
line, and everything after it. A pattern for one particular error has the same header and then the text of
that error as its second group.

Two patterns are equal if their source texts are.
-/

namespace Diagnostics

/-- A source text and the tree it reads as. -/
structure ErrorPattern where
  source : String
  tree : Regex.Ast
  reads : Regex.Ast.parse source = .ok tree

/-- An error found in an output. -/
structure ErrorRecord where
  line : Nat
  body : String
  deriving DecidableEq

namespace ErrorPattern

theorem eq_of_source_eq {p q : ErrorPattern} (h : p.source = q.source) : p = q := by
  cases p with
  | mk s t hs =>
    cases q with
    | mk s' t' hs' =>
      obtain rfl : s = s' := h
      obtain rfl : t = t' := by
        rw [hs] at hs'
        exact Except.ok.inj hs'
      rfl

instance : DecidableEq ErrorPattern := fun p q =>
  if h : p.source = q.source then .isTrue (eq_of_source_eq h)
  else .isFalse fun e => h (e ▸ rfl)

/-- Whether a source text reads as a tree is decided by reading it. -/
instance (source : String) (tree : Regex.Ast) : Decidable (Regex.Ast.parse source = .ok tree) :=
  match Regex.Ast.parse source with
  | .ok other => if h : other = tree then .isTrue (h ▸ rfl) else .isFalse fun e => h (Except.ok.inj e)
  | .error _ => .isFalse nofun

/-! ## Making patterns -/

/-- The pattern with the given source text. -/
def ofSource (source : String) : Except DiagnosticError ErrorPattern :=
  match h : Regex.Ast.parse source with
  | .ok tree => .ok ⟨source, tree, h⟩
  | .error cause => .error (.invalidPattern source cause)

/-- The header in front of an error, up to the start of the second group. -/
def headerSource : String := "File \"[^\"]+\", line ([0-9]+), characters [0-9-]+:\\n("

/-- The pattern with the usual header whose second group is the given text. -/
def ofBody (body : String) : Except DiagnosticError ErrorPattern := ofSource (headerSource ++ body ++ ")")

/-- The source text of the default pattern. -/
def defaultSource : String := "File \"[^\"]+\", line ([0-9]+), characters [0-9-]+:\\n((?:.|\\n)+)"

open Regex (Ast ClassItem) in
/-- One or more characters of a bracket. -/
def manyOf (negated : Bool) (item : ClassItem) : Ast := .repeated 1 none true (.bracket negated item)

/-- The characters of a text, each standing for itself. -/
def plainText (s : String) : List Regex.Ast := s.toList.map .char

open Regex (Ast ClassItem) in
/-- The elements of the header. -/
def header : List Ast :=
  plainText "File \""
    ++ manyOf true (.char '"')
    :: plainText "\", line "
    ++ .capture 1 (manyOf false (.span '0' '9'))
    :: plainText ", characters "
    ++ manyOf false (.union (.span '0' '9') (.char '-'))
    :: plainText ":\n"

open Regex (Ast) in
/-- Everything that is left, but at least one character. -/
def wholeRest : Ast := .repeated 1 none true (.group [] (.alt .dot (.char '\n')))

/-- The default pattern: the header and everything after it. -/
def default : ErrorPattern where
  source := defaultSource
  tree := Regex.Ast.sequence (header ++ [.capture 2 wholeRest])
  reads := by decide +kernel

/-- The meaning of a pattern. -/
def regex (p : ErrorPattern) : Regex := Regex.ofAst p.tree

/-! ## Using patterns -/

/-- The first place in the output where the pattern matches. -/
def find? (p : ErrorPattern) (output : String) : Option Regex.Match :=
  Regex.find? p.regex.program output.toList.toArray

/-- The pattern matches somewhere in the output. -/
def hasError (p : ErrorPattern) (output : String) : Bool := (p.find? output).isSome

/-- The text of a group; it is missing if nothing matches or if the match passed the group by. -/
def groupText (p : ErrorPattern) (output : String) (index : Nat) : Except DiagnosticError String :=
  match (p.find? output).bind (·.text? output.toList.toArray index) with
  | some text => .ok text
  | none => .error (.noMatch p.source)

/-- The line number of the error. -/
def lineNumber (p : ErrorPattern) (output : String) : Except DiagnosticError Nat := do
  let text ← p.groupText output 1
  match Numeral.read? Numeral.limit64 text with
  | some n => .ok n
  | none => .error (.invalidLineNumber text)

/-- The text of the error, as it stands. -/
def errorBody (p : ErrorPattern) (output : String) : Except DiagnosticError String := p.groupText output 2

/-- The error, if the pattern matches at all. -/
def findError (p : ErrorPattern) (output : String) : Except DiagnosticError (Option ErrorRecord) :=
  if p.hasError output then do
    let line ← p.lineNumber output
    let body ← p.errorBody output
    pure (some { line, body })
  else .ok none

end ErrorPattern

end Diagnostics
