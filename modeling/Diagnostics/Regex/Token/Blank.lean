import Diagnostics.Unicode.Space

/-!
# Blanks in a verbose pattern

Under the flag `x` white space and comments separate the parts of a pattern and mean nothing. A comment
runs from `#` to the end of its line.
-/

namespace Diagnostics.Regex

/-- The rest of the text after leading white space and comments; the flag says that a comment is open. -/
def dropBlanks : Bool → List Char → List Char
  | _, [] => []
  | true, c :: rest => dropBlanks (c != '\n') rest
  | false, c :: rest =>
    if Unicode.isSpace c then dropBlanks false rest
    else if c = '#' then dropBlanks true rest
    else c :: rest

/-- In a verbose pattern, drop leading blanks; otherwise blanks are characters like any other. -/
def skipBlanks (verbose : Bool) (cs : List Char) : List Char :=
  if verbose then dropBlanks false cs else cs

@[simp] theorem skipBlanks_false (cs : List Char) : skipBlanks false cs = cs := rfl

/-- The characters of a list that satisfy `p` up to the first that neither satisfies it nor is blank,
and the rest. In a verbose pattern blanks may stand between them. -/
def gather (p : Char → Bool) (verbose : Bool) : Bool → List Char → List Char × List Char
  | _, [] => ([], [])
  | true, c :: rest => gather p verbose (c != '\n') rest
  | false, c :: rest =>
    if p c then
      let (taken, left) := gather p verbose false rest
      (c :: taken, left)
    else if verbose && Unicode.isSpace c then gather p verbose false rest
    else if verbose && c = '#' then gather p verbose true rest
    else ([], c :: rest)

/-- The first character after the present one that is not blank, when blanks are skipped. -/
def peekPastBlanks (verbose : Bool) (cs : List Char) : Option Char :=
  if verbose then
    match cs.dropWhile Unicode.isSpace with
    | [] => cs.head?
    | '#' :: rest => (rest.dropWhile Unicode.isSpace).head? <|> cs.head?
    | c :: _ => some c
  else cs.head?

end Diagnostics.Regex
