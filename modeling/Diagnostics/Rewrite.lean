import Diagnostics.Family
import Diagnostics.Regex.Token.Escape
import Diagnostics.Unicode.Digit
import Diagnostics.Unicode.Space

/-!
# Rewriting an error text into the source of a pattern

An error text is escaped, so that as a pattern it matches itself. Then its passing details are written over with
expressions that match others of their kind: the details that some families carry, names of temporary files, and
numbers. Each step reads the text that the steps before it have left, takes the places to write over from left to
right, and takes each as far as it goes.
-/

namespace Diagnostics.Rewrite

/-- A character as a pattern that matches it. -/
def escapeChar (c : Char) : List Char := if Regex.isMeta c then ['\\', c] else [c]

/-- A text as a pattern that matches it. -/
def escape (cs : List Char) : List Char := cs.flatMap escapeChar

/-! ## What is written over the details -/

/-- Anything, line breaks included. -/
def anything : List Char := "(?s:.*)".toList

/-- The name of a temporary file. -/
def anyTempName : List Char := "tmp[A-Za-z_\\d]+".toList

/-- A number. -/
def anyNumber : List Char := "[\\d]+".toList

/-- The stem of a universe name. -/
def anyStem : List Char := "[^\\s]+?".toList

/-! ## Universe inconsistencies -/

/-- The word after which a universe inconsistency explains itself. -/
def because : String := " because"

/-- Write over the explanation: whatever stands after the first `because` behind the first phrase. -/
def truncate (cs : List Char) : List Char :=
  let phrase := DiagnosticFamily.universePhrase.toList
  match cutAtFirst? phrase cs with
  | none => cs
  | some (before, after) =>
    match cutAtFirst? because.toList (phrase ++ after) with
    | none => cs
    | some (between, _) => before ++ (between ++ because.toList) ++ anything

/-- The rest of a word from an escaped dot on that a digit follows, if the word has one. The flag says that the dot
would stand at the start of the word. -/
def afterStem? : Bool → List Char → Option (List Char)
  | _, [] => none
  | first, c :: rest =>
    if !first && c == '\\' && rest.head? == some '.' && rest.tail.head?.any Char.isDigit then some (c :: rest)
    else afterStem? false rest

/-- Write over the stem of a word. -/
def replaceStem (word : List Char) : List Char :=
  match afterStem? true word with
  | some rest => anyStem ++ rest
  | none => word

/-- Write over the stem of each word; `word` holds the characters of the word at hand, last first. -/
def replaceStemsFrom (word : List Char) : List Char → List Char
  | [] => replaceStem word.reverse
  | c :: rest =>
    if Unicode.isSpace c then replaceStem word.reverse ++ c :: replaceStemsFrom [] rest
    else replaceStemsFrom (c :: word) rest

/-- Write over the stem of each word of a text. -/
def replaceStems (cs : List Char) : List Char := replaceStemsFrom [] cs

/-! ## Constraints -/

/-- The line above constraints that a tactic left behind. -/
def unsatisfiedHeader : String := "Error: Unsatisfied constraints:"

/-- The line below them. -/
def unsatisfiedFooter : String := "(maybe a bugged tactic)"

/-- Write over constraints left behind: whatever stands between the first header and the last footer. -/
def replaceUnsatisfied (cs : List Char) : List Char :=
  match cutAtFirst? unsatisfiedHeader.toList cs with
  | none => cs
  | some (before, after) =>
    match cutAtLast? (escape unsatisfiedFooter.toList) after with
    | none => cs
    | some (_, rest) => before ++ unsatisfiedHeader.toList ++ anything ++ escape unsatisfiedFooter.toList ++ rest

/-- The line above constraints without a solution. -/
def unsatisfiableHeader : String := "Error: Unable to satisfy the following constraints:"

/-- Write over constraints without a solution: whatever follows the first header. -/
def replaceUnsatisfiable (cs : List Char) : List Char :=
  match cutAtFirst? unsatisfiableHeader.toList cs with
  | none => cs
  | some (before, _) => before ++ unsatisfiableHeader.toList ++ anything

/-- Write over the details that the family carries. -/
def replaceDetails (family : DiagnosticFamily) (cs : List Char) : List Char :=
  match family with
  | .universeInconsistency => replaceStems (truncate cs)
  | .unsatisfiedConstraints => replaceUnsatisfied cs
  | .unsatisfiableConstraints => replaceUnsatisfiable cs
  | .other => cs

/-! ## Names of temporary files and numbers -/

/-- Characters that follow `tmp` in the name of a temporary file: letters of ASCII, the low line and the
decimal digits of any script. -/
def isTempChar (c : Char) : Bool := c.isAlpha || c == '_' || Unicode.isDigit c

/-- Write over each name of a temporary file. -/
def replaceTempNames : List Char → List Char
  | [] => []
  | 't' :: 'm' :: 'p' :: c :: rest =>
    if isTempChar c then anyTempName ++ replaceTempNames (rest.dropWhile isTempChar)
    else 't' :: replaceTempNames ('m' :: 'p' :: c :: rest)
  | c :: rest => c :: replaceTempNames rest
termination_by cs => cs.length
decreasing_by
  · have := (List.dropWhile_suffix (l := rest) isTempChar).length_le
    simp only [List.length_cons]
    omega
  · simp
  · simp

/-- Write over each run of the digits 0 to 9. -/
def replaceNumbers : List Char → List Char
  | [] => []
  | c :: rest =>
    if c.isDigit then anyNumber ++ replaceNumbers (rest.dropWhile Char.isDigit)
    else c :: replaceNumbers rest
termination_by cs => cs.length
decreasing_by
  · have := (List.dropWhile_suffix (l := rest) Char.isDigit).length_le
    simp only [List.length_cons]
    omega
  · simp

/-- Numbers after this phrase are what the error is about. -/
def instancePhrase : String := "Universe instance should have length "

/-- An error text as the source of a pattern. -/
def body (family : DiagnosticFamily) (cs : List Char) : List Char :=
  let text := replaceTempNames (replaceDetails family (escape cs))
  if occursIn instancePhrase.toList text then text else replaceNumbers text

end Diagnostics.Rewrite
