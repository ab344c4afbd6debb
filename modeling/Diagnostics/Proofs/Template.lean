import Diagnostics.Rewrite

/-!
# Templates

A template is the text of an error with its passing details left open: names of temporary files, numbers,
the stem of a qualified universe name, and the explanations that some families carry. It is built from the
text by steps that replace characters by open parts and never look inside an open part again, and it is
written out as the source of a pattern in which each remaining character stands for itself. Rewriting the
escaped text comes to the same source, and a template says what in that source came from where.
-/

namespace Diagnostics

/-- A part of a template. -/
inductive Part
  | char (c : Char)
  | tempName
  | number
  | stem
  | anything
  deriving DecidableEq

namespace Part

/-- The pattern source of a part. -/
def source : Part → List Char
  | char c => Rewrite.escapeChar c
  | tempName => Rewrite.anyTempName
  | number => Rewrite.anyNumber
  | stem => Rewrite.anyStem
  | anything => Rewrite.anything

/-- The part is the given character. -/
def isChar (p : Char → Bool) : Part → Bool
  | char c => p c
  | _ => false

end Part

/-- The text of an error with open parts. -/
abbrev Template := List Part

namespace Template

open Rewrite (because unsatisfiedHeader unsatisfiedFooter unsatisfiableHeader instancePhrase isTempChar)

/-- A text without open parts. -/
def literal (cs : List Char) : Template := cs.map .char

/-- The template as the source of a pattern. -/
def source (t : Template) : String := String.ofList (t.flatMap Part.source)

/-! ## Stems of universe names

In a word such as `Top.12` whatever stands before the dot is a name that may change. A word is a run of
characters that are not white space. Its stem ends at the first dot that is not the first character of the
word and that a digit follows. -/

/-- The word from the dot after its stem on, if it has a stem. The flag says that the dot would be the
first character. -/
def afterStem? : Bool → List Char → Option (List Char)
  | _, [] => none
  | first, c :: rest =>
    if !first && c == '.' && rest.head?.any Char.isDigit then some (c :: rest) else afterStem? false rest

/-- A word with its stem left open. -/
def openStem (word : List Char) : Template :=
  match afterStem? true word with
  | some rest => .stem :: literal rest
  | none => literal word

/-- Open the stem of each word; `word` holds the characters of the word at hand, last first. -/
def openStemsFrom (word : List Char) : List Char → Template
  | [] => openStem word.reverse
  | c :: rest =>
    if Unicode.isSpace c then openStem word.reverse ++ .char c :: openStemsFrom [] rest
    else openStemsFrom (c :: word) rest

/-- Open the stem of each word of a text. -/
def openStems (cs : List Char) : Template := openStemsFrom [] cs

/-! ## What each family leaves open -/

/-- A universe inconsistency up to its explanation: the text kept, and whether anything was cut. -/
def cutExplanation (cs : List Char) : List Char × Bool :=
  match cutAtFirst? DiagnosticFamily.universePhrase.toList cs with
  | none => (cs, false)
  | some (before, after) =>
    match cutAtFirst? because.toList after with
    | none => (cs, false)
    | some (between, _) =>
      (before ++ DiagnosticFamily.universePhrase.toList ++ between ++ because.toList, true)

/-- A universe inconsistency: the explanation and the stems of its universe names are open. -/
def ofUniverse (cs : List Char) : Template :=
  let (kept, cut) := cutExplanation cs
  openStems kept ++ if cut then [.anything] else []

/-- Constraints left behind: whatever stands between the first header and the last footer is open. -/
def ofUnsatisfied (cs : List Char) : Template :=
  match cutAtFirst? unsatisfiedHeader.toList cs with
  | none => literal cs
  | some (before, after) =>
    match cutAtLast? unsatisfiedFooter.toList after with
    | none => literal cs
    | some (_, rest) =>
      literal (before ++ unsatisfiedHeader.toList) ++ .anything
        :: literal (unsatisfiedFooter.toList ++ rest)

/-- Constraints without a solution: whatever follows the first header is open. -/
def ofUnsatisfiable (cs : List Char) : Template :=
  match cutAtFirst? unsatisfiableHeader.toList cs with
  | none => literal cs
  | some (before, _) => literal (before ++ unsatisfiableHeader.toList) ++ [.anything]

/-- An error text with the parts that its family leaves open. -/
def ofFamily (family : DiagnosticFamily) (cs : List Char) : Template :=
  match family with
  | .universeInconsistency => ofUniverse cs
  | .unsatisfiedConstraints => ofUnsatisfied cs
  | .unsatisfiableConstraints => ofUnsatisfiable cs
  | .other => literal cs

/-! ## Names of temporary files and numbers -/

/-- Leave each name of a temporary file open, as long as it goes. -/
def openTempNames : Template → Template
  | [] => []
  | .char 't' :: .char 'm' :: .char 'p' :: .char c :: rest =>
    if isTempChar c then .tempName :: openTempNames (rest.dropWhile (Part.isChar isTempChar))
    else .char 't' :: openTempNames (.char 'm' :: .char 'p' :: .char c :: rest)
  | part :: rest => part :: openTempNames rest
termination_by t => t.length
decreasing_by
  · have := (List.dropWhile_suffix (l := rest) (Part.isChar isTempChar)).length_le
    simp only [List.length_cons]
    omega
  · simp
  · simp

/-- Leave each run of the digits 0 to 9 open. -/
def openNumbers : Template → Template
  | [] => []
  | .char c :: rest =>
    if c.isDigit then .number :: openNumbers (rest.dropWhile (Part.isChar Char.isDigit))
    else .char c :: openNumbers rest
  | part :: rest => part :: openNumbers rest
termination_by t => t.length
decreasing_by
  · have := (List.dropWhile_suffix (l := rest) (Part.isChar Char.isDigit)).length_le
    simp only [List.length_cons]
    omega
  · simp
  · simp

/-- The numbers of a template matter: the phrase occurs among its literal characters. -/
def keepsNumbers (t : Template) : Bool := occursIn (literal instancePhrase.toList) t

/-- The template of an error text. -/
def ofBody (body : String) : Template :=
  let t := openTempNames (ofFamily (DiagnosticFamily.classify body) body.toList)
  if t.keepsNumbers then t else openNumbers t

end Template

end Diagnostics
