import Diagnostics.Toml.Error

/-!
# Blanks, comments and the ends of lines

A blank is a space or a tab. A line ends with a line feed, which a carriage return may precede, or with the
text. A comment reaches from a number sign to the end of the line and holds no control character but tabs.
-/

namespace Diagnostics.Toml

/-- A space or a tab. -/
def isBlank (c : Char) : Bool := c == ' ' || c == '\t'

/-- A character that is no control character, or a tab. -/
def isPlain (c : Char) : Bool := c == '\t' || (32 ≤ c.toNat && c.toNat != 127)

/-- The text after its blanks. -/
def skipBlanks (cs : List Char) : List Char := cs.dropWhile isBlank

/-- The text after a line break. -/
def afterBreak? : List Char → Option (List Char)
  | '\n' :: rest => some rest
  | '\r' :: '\n' :: rest => some rest
  | _ => none

theorem afterBreak?_length {cs rest : List Char} (h : afterBreak? cs = some rest) :
    rest.length < cs.length := by
  unfold afterBreak? at h
  split at h
  · cases h; simp
  · cases h; simp only [List.length_cons]; omega
  · simp at h

/-- The text after a comment, if it begins with one. -/
def skipComment : List Char → List Char
  | '#' :: rest => rest.dropWhile isPlain
  | cs => cs

theorem skipBlanks_length (cs : List Char) : (skipBlanks cs).length ≤ cs.length :=
  (List.dropWhile_suffix isBlank).length_le

theorem skipComment_length (cs : List Char) : (skipComment cs).length ≤ cs.length := by
  unfold skipComment
  split
  · have := (List.dropWhile_suffix (l := ‹List Char›) isPlain).length_le
    simp only [List.length_cons]
    omega
  · exact Nat.le_refl _

/-- The text after the rest of a line, on which only blanks and a comment may stand. -/
def endLine (cs : List Char) : Except Misread (List Char) :=
  match skipComment (skipBlanks cs) with
  | [] => .ok []
  | left =>
    match afterBreak? left with
    | some rest => .ok rest
    | none => stop left .unexpected

/-- The text after blanks, comments and line breaks. -/
def skipLines (cs : List Char) : List Char :=
  match _h : afterBreak? (skipComment (skipBlanks cs)) with
  | some rest => skipLines rest
  | none => skipBlanks cs
termination_by cs.length
decreasing_by
  exact Nat.lt_of_lt_of_le (afterBreak?_length _h)
    (Nat.le_trans (skipComment_length _) (skipBlanks_length _))

end Diagnostics.Toml
