import Diagnostics.Sandbox.Shell.Pattern
import Diagnostics.Sandbox.Tool.Count
import Diagnostics.Sandbox.Tool.Facts
import Diagnostics.Sandbox.Tool.Names

/-!
# Listing files

The tool that lists the files in directories.
-/

namespace Diagnostics.Sandbox

/-! ## Lines -/

/-- A file that is listed. -/
structure Listed where
  name : Octets
  path : Octets
  facts : FileFacts

/-- How files are listed. -/
structure Listing where
  all : Bool := false
  almostAll : Bool := false
  long : Bool := false
  noOwner : Bool := false
  noGroup : Bool := false
  directory : Bool := false
  recursive : Bool := false
  classify : Bool := false
  slashes : Bool := false
  inodes : Bool := false
  blocks : Bool := false
  commas : Bool := false
  quotes : Bool := false
  reverse : Bool := false
  numeric : Bool := false
  order : String := "name"

namespace Listing

/-- The sign after a name. -/
def mark (l : Listing) (f : FileFacts) : Octets :=
  match f.content with
  | .directory .. => if l.classify || l.slashes then ['/'] else []
  | .link _ => if l.classify && !l.long then ['@'] else []
  | .fifo => if l.classify then ['|'] else []
  | .program _ => if l.classify then ['*'] else []
  | .regular _ => if l.classify && f.mode &&& 0o111 ≠ 0 then ['*'] else []
  | _ => []

/-- Put files in order. -/
def sorted (l : Listing) (files : List Listed) : List Listed :=
  let le (a b : Listed) : Bool :=
    if l.order = "size" then if a.facts.size = b.facts.size then octetsLe a.name b.name else b.facts.size ≤ a.facts.size
    else if l.order = "time" then
      if a.facts.changed = b.facts.changed then octetsLe a.name b.name else b.facts.changed ≤ a.facts.changed
    else octetsLe a.name b.name
  let files := if l.order = "none" then files else files.mergeSort le
  if l.reverse then files.reverse else files

/-- The name as it is shown. -/
def shownName (l : Listing) (f : Listed) : Octets :=
  (if l.quotes then '"' :: f.name ++ ['"'] else f.name) ++ l.mark f.facts

/-- The lines for files. -/
def lines (l : Listing) (files : List Listed) : List Octets :=
  let widthOf (g : Listed → Octets) : Nat := files.foldl (fun n f => max n (g f).length) 0
  let left (width : Nat) (cs : Octets) : Octets := List.replicate (width - cs.length) ' ' ++ cs
  let inode (f : Listed) : Octets := (toString (f.facts.id + 1000)).toList
  let block (f : Listed) : Octets := (toString (blocksOf f.facts)).toList
  let names (f : Listed) : Octets := (toString f.facts.names).toList
  let size (f : Listed) : Octets := (toString f.facts.size).toList
  let inodeWidth := widthOf inode
  let blockWidth := widthOf block
  let namesWidth := widthOf names
  let sizeWidth := widthOf size
  files.map fun f =>
    let head := (if l.inodes then left inodeWidth (inode f) ++ [' '] else []) ++
      (if l.blocks then left blockWidth (block f) ++ [' '] else [])
    let who := if l.numeric then "0".toList else "root".toList
    let details :=
      if l.long then
        kindLetter f.facts.content :: permissionLetters f.facts.mode ++ ' ' :: left namesWidth (names f) ++ [' '] ++
          (if l.noOwner then [] else who ++ [' ']) ++ (if l.noGroup then [] else who ++ [' ']) ++
          left sizeWidth (size f) ++ " Jan  1 00:00 ".toList
      else []
    let target := match f.facts.content with
      | .link road => if l.long then " -> ".toList ++ road else []
      | _ => []
    head ++ details ++ l.shownName f ++ target

end Listing

namespace Work

/-- Print files. -/
def printFiles (l : Listing) (files : List Listed) : Work Unit := do
  if l.commas && !l.long then
    unless files.isEmpty do printLine (", ".toList.intercalate (files.map l.shownName))
  else (l.lines files).forM printLine

/-- Directories in directories are listed no deeper than this. -/
def listDepth : Nat := 4096

/-- List a directory, and the directories in it. -/
def listDirectory (l : Listing) (titled : Bool) : Nat → Bool → Octets → Work Unit
  | 0, _, _ => pure ()
  | fuel + 1, isFirst, path => do
    match ← ask (.names path) with
    | .error e =>
      blame ("cannot open directory ".toList ++ quoteName path ++ ": ".toList ++ e.words.toList)
    | .ok names => do
      if titled then print ((if isFirst then [] else ['\n']) ++ path ++ ":\n".toList)
      let dots := if l.all then [['.'], ['.', '.']] else []
      let kept := names.filter fun name => l.all || l.almostAll || name.head? != some '.'
      let files ← (dots ++ kept).filterMapM fun name => do
        let full := below path name
        match ← ask (.look full false) with
        | .ok facts => pure (some { name, path := full, facts : Listed })
        | .error _ => pure none
      let files := l.sorted files
      if l.long || l.blocks then
        printLine ("total ".toList ++ (toString (files.foldl (fun n f => n + blocksOf f.facts) 0)).toList)
      printFiles l files
      if l.recursive then
        files.forM fun f => do
          match f.facts.content with
          | .directory .. =>
            unless f.name = ['.'] || f.name = ['.', '.'] do listDirectory l titled fuel false f.path
          | _ => pure ()

/-- Options of the tool that lists files. -/
def listRules : List OptionRule :=
  ([('a', "all"), ('A', "almost-all"), ('l', "l"), ('g', "g"), ('o', "o"), ('G', "no-group"), ('d', "directory"),
    ('R', "recursive"), ('p', "p"), ('i', "inode"), ('s', "size"), ('m', "m"), ('Q', "quote-name"), ('r', "reverse"),
    ('S', "S"), ('t', "t"), ('U', "U"), ('f', "f"), ('n', "numeric-uid-gid"), ('1', "1"), ('C', "C"), ('x', "x"),
    ('h', "human-readable"), ('k', "kibibytes"), ('L', "dereference"), ('H', "dereference-command-line"), ('q', "q"),
    ('N', "literal"), ('b', "escape"), ('B', "ignore-backups"), ('c', "c"), ('u', "u"), ('v', "v"), ('X', "X"),
    ('Z', "context")].map fun (c, name) => ⟨some c, name, .nothing⟩) ++
    [⟨some 'F', "classify", .maybeWord⟩, ⟨some 'I', "ignore", .word⟩, ⟨some 'w', "width", .word⟩,
      ⟨some 'T', "tabsize", .word⟩, ⟨none, "color", .maybeWord⟩, ⟨none, "sort", .word⟩, ⟨none, "time", .word⟩,
      ⟨none, "format", .word⟩, ⟨none, "full-time", .nothing⟩, ⟨none, "group-directories-first", .nothing⟩,
      ⟨none, "file-type", .nothing⟩, ⟨none, "time-style", .word⟩, ⟨none, "quoting-style", .word⟩,
      ⟨none, "show-control-chars", .nothing⟩, ⟨none, "hide", .word⟩, ⟨none, "si", .nothing⟩]

/-- List files. -/
def ls (args : List Octets) : Work Nat := do
  let (settings, paths) ← readOptions (listRules.map fun r =>
    if r.letter = some 'F' then { r with wants := .nothing } else r) args
  let any (names : List String) : Bool := names.any settings.has
  let l : Listing :=
    { all := any ["all", "f"], almostAll := settings.has "almost-all"
      long := any ["l", "g", "o", "numeric-uid-gid", "full-time"], noOwner := settings.has "g"
      noGroup := any ["o", "no-group"]
      directory := settings.has "directory", recursive := settings.has "recursive"
      classify := settings.has "classify", slashes := any ["p", "file-type"]
      inodes := settings.has "inode", blocks := settings.has "size", commas := settings.has "m"
      quotes := settings.has "quote-name", reverse := settings.has "reverse"
      numeric := settings.has "numeric-uid-gid"
      order := match settings.lastOf ["S", "t", "U", "f", "sort"] with
        | some "S" => "size"
        | some "t" => "time"
        | some "sort" => (settings.last? "sort").elim "name" String.ofList
        | some _ => "none"
        | none => "name" }
  let follows (path : Octets) : Bool :=
    any ["dereference", "dereference-command-line"] || (!l.directory && !l.long && !l.classify) || path.getLast? = some '/'
  let operands := if paths.isEmpty then [['.']] else paths
  let found ← operands.filterMapM fun path => do
    let first : Except OsError FileFacts ← ask (.look path (follows path))
    let looked : Except OsError FileFacts ← match first with
      | .ok facts => pure (.ok facts)
      | .error e => if follows path && e = .noSuchFile then ask (.look path false) else pure (.error e)
    match looked with
    | .ok facts => pure (some { name := path, path, facts : Listed })
    | .error e => do
      complain ("cannot access ".toList ++ quoteName path ++ ": ".toList ++ e.words.toList)
      modify fun t => { t with status := 2 }
      pure none
  let isDirectory (f : Listed) : Bool :=
    match f.facts.content with
    | .directory .. => !l.directory
    | _ => false
  let files := l.sorted (found.filter (!isDirectory ·))
  let directories := l.sorted (found.filter isDirectory)
  printFiles l files
  let titled := l.recursive || 1 < operands.length
  let _ ← directories.foldlM (fun (isFirst : Bool) f => do
    listDirectory l titled listDepth isFirst f.path
    pure false) files.isEmpty
  status

end Work

end Diagnostics.Sandbox
