import Diagnostics.Toml.Value

/-!
# Documents

A document is a list of lines: blank ones and comments, headers, and pairs. A header names the table that
the pairs after it belong to; pairs before the first header belong to the document itself.
-/

namespace Diagnostics.Toml

/-- What has been read of a document: its entries, and the keys of the table that pairs go to. -/
structure Progress where
  entries : Entries := []
  path : List String := []

namespace Progress

/-- Keep the characters left when a change of the entries fails. -/
def guarded (cs : List Char) (path : List String) : Except Fault Entries → Except Misread Progress
  | .ok entries => .ok { entries, path }
  | .error fault => stop cs fault

/-- Read a header after its opening brackets. -/
def readHeader (p : Progress) (repeated : Bool) (cs : List Char) : Except Misread (Progress × List Char) := do
  let (path, left) ← readKeyPath cs
  let left ←
    match repeated, left with
    | false, ']' :: rest => endLine rest
    | true, ']' :: ']' :: rest => endLine rest
    | _, _ => stop left .unexpected
  let openIt := if repeated then Entries.openNext else Entries.openTable
  let p ← guarded cs (path.tables ++ [path.key]) (openIt cs.length path.tables path.key p.entries)
  pure (p, left)

/-- Read a pair and add it to the table at hand. -/
def readAssignment (p : Progress) (cs : List Char) : Except Misread (Progress × List Char) := do
  let ((path, node), left) ← readPair (readValue (depthLimit - 1)) cs
  let left ← endLine left
  let entries := Entries.within false cs.length
    (fun origin inside => Entries.assign cs.length path.tables path.key node origin inside)
    p.path .header p.entries
  pure (← guarded cs p.path entries, left)

/-- Read one line. -/
def readStatement (p : Progress) (cs : List Char) : Reading Progress :=
  match skipBlanks cs with
  | [] => .ok (p, [])
  | '#' :: rest => (endLine ('#' :: rest)).map fun left => (p, left)
  | '[' :: '[' :: rest => p.readHeader true rest
  | '[' :: rest => p.readHeader false rest
  | start =>
    match afterBreak? start with
    | some rest => .ok (p, rest)
    | none => p.readAssignment start

/-- Read all lines. -/
def readAll (p : Progress) (cs : List Char) : Except Misread Progress :=
  match cs with
  | [] => .ok p
  | c :: rest =>
    match p.readStatement (c :: rest) with
    | .error e => .error e
    | .ok (p, left) => if left.length ≤ rest.length then readAll p left else stop left .unexpected
termination_by cs.length
decreasing_by simp only [List.length_cons]; omega

end Progress

/-- The document's text after the mark of its encoding. -/
def skipEncodingMark : List Char → List Char
  | '\ufeff' :: rest => rest
  | cs => cs

/-- Read a document. -/
def parse (text : List Char) : Except Misread Entries := do
  let p ← Progress.readAll {} (skipEncodingMark text)
  pure p.entries

end Diagnostics.Toml
