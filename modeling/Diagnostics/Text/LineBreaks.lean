/-!
# Line breaks

Captured text may break its lines with a carriage return, a line feed, or the two in either order. The
canonical form has line feeds only. It is reached in three passes over the whole text: pairs that begin
with the carriage return, then pairs that begin with the line feed, then single carriage returns.
-/

namespace Diagnostics.LineBreaks

/-- Replace each pair `first, second`, from the left, by a line feed. -/
def joinPairs (first second : Char) : List Char → List Char
  | [] => []
  | [c] => [c]
  | c :: d :: rest =>
    if c = first ∧ d = second then '\n' :: joinPairs first second rest
    else c :: joinPairs first second (d :: rest)

/-- Replace each carriage return by a line feed. -/
def replaceReturns (cs : List Char) : List Char := cs.map fun c => if c = '\r' then '\n' else c

/-- The three passes in order. -/
def canonicalChars (cs : List Char) : List Char :=
  replaceReturns (joinPairs '\n' '\r' (joinPairs '\r' '\n' cs))

/-- The text with every line break in canonical form. -/
def canonical (text : String) : String := String.ofList (canonicalChars text.toList)

end Diagnostics.LineBreaks
