/-!
# Paths

A path is a text of segments between slashes. Its components are what the segments mean: empty segments
mean nothing, and a single dot means something only in first place. Two paths are the same place if their
components are equal. The last component is the file name unless it is a dot or two; the stem of a file name
ends before its last dot, and a name whose only dot comes first is all stem.
-/

namespace Diagnostics

/-- A path as text. -/
structure Path where
  text : String
  deriving DecidableEq

namespace Path

/-! ## Segments -/

/-- The segments between the slashes of a text, at least one. -/
def split : List Char → List (List Char)
  | [] => [[]]
  | c :: cs =>
    if c = '/' then [] :: split cs
    else
      match split cs with
      | [] => [[c]]
      | s :: rest => (c :: s) :: rest

/-- Segments with slashes between them. -/
def join : List (List Char) → List Char
  | [] => []
  | [s] => s
  | s :: t :: rest => s ++ '/' :: join (t :: rest)

theorem split_ne_nil (cs : List Char) : split cs ≠ [] := by
  cases cs with
  | nil => simp [split]
  | cons c cs =>
    unfold split
    split
    · simp
    · split <;> simp

/-- The path starts at the root. -/
def isAbsolute (p : Path) : Bool := p.text.toList.head? == some '/'

/-- The segments after the root. -/
def segments (p : Path) : List (List Char) :=
  if p.isAbsolute then split (p.text.toList.drop 1) else split p.text.toList

/-- The path of the given segments. -/
def ofSegments (absolute : Bool) (segments : List (List Char)) : Path :=
  ⟨String.ofList ((if absolute then ['/'] else []) ++ join segments)⟩

/-! ## Components -/

/-- What a segment means. -/
inductive Component
  | root
  | here
  | up
  | name (chars : List Char)
  deriving DecidableEq

/-- The meaning of a segment; the flag says that it stands in first place of a relative path. -/
def component? (first : Bool) (s : List Char) : Option Component :=
  if s = [] then none
  else if s = ['.'] then if first then some .here else none
  else if s = ['.', '.'] then some .up
  else some (.name s)

/-- The components of a path. -/
def components (p : Path) : List Component :=
  let body :=
    match p.segments with
    | [] => []
    | s :: rest => (component? (!p.isAbsolute) s).toList ++ rest.filterMap (component? false)
  if p.isAbsolute then .root :: body else body

/-- Two paths lead to the same place by the same steps. -/
def same (p q : Path) : Bool := p.components == q.components

/-! ## The last component -/

/-- Drop the segments at the end that mean nothing; segments come last first. -/
def dropMeaningless (absolute : Bool) : List (List Char) → List (List Char)
  | [] => []
  | [s] => if (component? (!absolute) s).isNone then [] else [s]
  | s :: rest => if (component? false s).isNone then dropMeaningless absolute rest else s :: rest

/-- The last segment that means something, and the segments before it in their order. -/
def splitLast? (p : Path) : Option (List (List Char) × List Char) :=
  match dropMeaningless p.isAbsolute p.segments.reverse with
  | [] => none
  | s :: before => some (before.reverse, s)

/-- The file name, if the last component is a name. -/
def fileName? (p : Path) : Option (List Char) := do
  let (before, last) ← p.splitLast?
  match component? (before.isEmpty && !p.isAbsolute) last with
  | some (.name s) => some s
  | _ => none

/-- The path without its last component. -/
def parent? (p : Path) : Option Path := do
  let (before, _) ← p.splitLast?
  pure (ofSegments p.isAbsolute (dropMeaningless p.isAbsolute before.reverse).reverse)

/-- The path of an entry of a directory; the empty path is the directory at hand. -/
def child (dir : Path) (name : List Char) : Path :=
  let d := dir.text.toList
  if d.isEmpty ∨ d.getLast? = some '/' then ⟨String.ofList (d ++ name)⟩
  else ⟨String.ofList (d ++ '/' :: name)⟩

/-! ## Stem and extension -/

/-- A file name cut at its last dot, unless that dot is its first character. -/
def cutExtension (name : List Char) : List Char × Option (List Char) :=
  let tail := name.reverse.takeWhile (· != '.')
  let stem := (name.reverse.dropWhile (· != '.')).drop 1
  if stem.isEmpty then (name, none) else (stem.reverse, some tail.reverse)

/-- The stem of the file name. -/
def fileStem? (p : Path) : Option (List Char) := p.fileName?.map fun n => (cutExtension n).1

/-- The extension of the file name. -/
def extension? (p : Path) : Option (List Char) := p.fileName?.bind fun n => (cutExtension n).2

/-- The path up to the end of the stem of its file name. -/
def upToStem (p : Path) : Path :=
  match p.splitLast?, p.fileStem? with
  | some (before, _), some stem => ofSegments p.isAbsolute (before ++ [stem])
  | _, _ => p

/-- The path without its extension: as many characters as the extension has are cut from the end, and then
whatever follows the stem of what is left. -/
def withoutExtension (p : Path) : Path :=
  match p.extension? with
  | none => p.upToStem
  | some e =>
    let cs := p.text.toList
    upToStem ⟨String.ofList (cs.take (cs.length - e.length))⟩

end Path

end Diagnostics
