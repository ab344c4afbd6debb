import Diagnostics.Toml.Blank

/-!
# Texts in quotes

A text stands between quotes or apostrophes, one of them at each end or three. Between quotes the backslash
begins an escape. Only a text with three at each end may hold line breaks; a line break right after the
opening marks is not part of it, and a line break in it is one line feed, however it is written.
-/

namespace Diagnostics.Toml

/-- The value of a hexadecimal digit. -/
def hexDigit? (c : Char) : Option Nat :=
  if '0' ≤ c ∧ c ≤ '9' then some (c.toNat - '0'.toNat)
  else if 'a' ≤ c ∧ c ≤ 'f' then some (c.toNat - 'a'.toNat + 10)
  else if 'A' ≤ c ∧ c ≤ 'F' then some (c.toNat - 'A'.toNat + 10)
  else none

/-- The character that hexadecimal digits number. -/
def charOfHex? (digits : List Char) : Option Char := do
  let values ← digits.mapM hexDigit?
  let n := values.foldl (fun n d => n * 16 + d) 0
  if n.isValidChar then some (Char.ofNat n) else none

/-- The character that a fixed count of hexadecimal digits numbers, and the text after them. -/
def numbered? (count : Nat) (cs : List Char) : Option (Char × List Char) :=
  if (cs.take count).length = count then (charOfHex? (cs.take count)).map fun c => (c, cs.drop count)
  else none

/-- The character of the escape after a backslash, and the text after it. -/
def escape? : List Char → Option (Char × List Char)
  | 'b' :: rest => some ('\x08', rest)
  | 't' :: rest => some ('\t', rest)
  | 'n' :: rest => some ('\n', rest)
  | 'f' :: rest => some ('\x0c', rest)
  | 'r' :: rest => some ('\r', rest)
  | '"' :: rest => some ('"', rest)
  | '\\' :: rest => some ('\\', rest)
  | 'u' :: rest => numbered? 4 rest
  | 'U' :: rest => numbered? 8 rest
  | _ => none

/-- The text after a line break that a backslash takes away, with all blanks and line breaks after it. -/
def skipFolded (cs : List Char) : List Char :=
  match _h : afterBreak? (skipBlanks cs) with
  | some rest => skipFolded rest
  | none => skipBlanks cs
termination_by cs.length
decreasing_by exact Nat.lt_of_lt_of_le (afterBreak?_length _h) (skipBlanks_length _)

/-- The mark at the ends of a text, and whether it stands three times. -/
structure Quotation where
  mark : Char
  long : Bool

namespace Quotation

/-- Backslashes begin escapes. -/
def hasEscapes (q : Quotation) : Bool := q.mark == '"'

/-- The marks in a text that begins with one: those that belong to the text quoted, and what follows the
closing marks if the text quoted ends here. Up to two marks may stand right before the three that close. -/
def marks (q : Quotation) (cs : List Char) : List Char × Option (List Char) :=
  if q.long then
    let run := (cs.takeWhile (· == q.mark)).length
    if run < 3 then (List.replicate run q.mark, none)
    else (List.replicate (min run 5 - 3) q.mark, some (cs.drop (min run 5)))
  else ([], some (cs.drop 1))

/-- What stands at the start of a text between its marks: the characters it means, and what follows it. -/
def piece (q : Quotation) (c : Char) (rest : List Char) : Reading (List Char) :=
  if c = '\\' && q.hasEscapes then
    if q.long && (afterBreak? (skipBlanks rest)).isSome then .ok ([], skipFolded rest)
    else
      match escape? rest with
      | some (c, left) => .ok ([c], left)
      | none => stop rest .badEscape
  else if isPlain c then .ok ([c], rest)
  else
    match q.long, afterBreak? (c :: rest) with
    | true, some left => .ok (['\n'], left)
    | _, _ => stop (c :: rest) .unexpected

/-- Read up to the closing marks; `read` holds what has been read, last first. -/
def readFrom (q : Quotation) (read : List Char) (cs : List Char) : Reading String :=
  match cs with
  | [] => stop [] .unclosedText
  | c :: rest =>
    if c = q.mark then
      match q.marks (c :: rest) with
      | (kept, some left) => .ok (String.ofList (kept ++ read).reverse, left)
      | (kept, none) =>
        if kept.length ≠ 0 then readFrom q (kept ++ read) ((c :: rest).drop kept.length)
        else stop (c :: rest) .unexpected
    else
      match q.piece c rest with
      | .error e => .error e
      | .ok (meant, left) =>
        if left.length ≤ rest.length then readFrom q (meant ++ read) left else stop left .unexpected
termination_by cs.length
decreasing_by
  · simp only [List.length_drop, List.length_cons]; omega
  · simp only [List.length_cons]; omega

end Quotation

/-- Read a text on one line, after its opening mark. -/
def readLine (mark : Char) (cs : List Char) : Reading String :=
  Quotation.readFrom { mark, long := false } [] cs

/-- Read a text after its first opening mark. -/
def readText (mark : Char) (cs : List Char) : Reading String :=
  match cs with
  | a :: b :: rest =>
    if a = mark ∧ b = mark then
      Quotation.readFrom { mark, long := true } [] ((afterBreak? rest).getD rest)
    else readLine mark cs
  | _ => readLine mark cs

end Diagnostics.Toml
