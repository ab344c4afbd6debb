import Diagnostics.Launch.OsError
import Diagnostics.Path
import Diagnostics.Text.Octets

/-!
# A tree of files

The files that sandboxed processes see. Every file is a node with a number of its own, and directories give
names to nodes, so a node may have several names or none. A path is followed name by name; what fails, and with
which error, is what the system would say.
-/

namespace Diagnostics.Sandbox

/-- The number of a node. -/
abbrev NodeId := Nat

/-- What a device does with what it is given, and what it gives. `descriptor n` is whatever the descriptor `n`
of the process leads to. -/
inductive Device
  | null
  | zero
  | full
  | descriptor (n : Nat)
  deriving DecidableEq

/-- What a node holds. A directory knows the directory above it. -/
inductive Content
  | directory (parent : NodeId) (names : List (Octets × NodeId))
  | regular (octets : Array Char)
  | link (target : Octets)
  | fifo
  | device (d : Device)
  | program (name : String)
  deriving DecidableEq

/-- A file of any kind: its content, its permissions, and when it was last changed. -/
structure Node where
  content : Content
  mode : Nat
  changed : Nat := 0

/-- An empty directory. -/
def Node.folder : Node := { content := .directory 0 [], mode := 0o755 }

/-- A file with a text, which everybody may read. -/
def Node.document (octets : Octets) : Node := { content := .regular octets.toArray, mode := 0o644 }

/-- Nodes by number; node 0 is the root. -/
structure FileTree where
  nodes : Array Node

/-! ## Errors -/

def notPermitted : OsError := .number 1
def noSuchProcess : OsError := .number 3
def interruptedCall : OsError := .number 4
def badDescriptor : OsError := .number 9
def noChild : OsError := .number 10
def busy : OsError := .number 16
def invalidArgument : OsError := .number 22
def textBusy : OsError := .number 26
def noSpace : OsError := .number 28
def illegalSeek : OsError := .number 29
def brokenPipe : OsError := .number 32
def notEmpty : OsError := .number 39
def tooManyLinks : OsError := .number 40

/-- A name that holds a NUL. -/
def nulInName : OsError := .described .invalidInput "file name contained an unexpected NUL byte"

/-- The longest name in octets. -/
def nameLimit : Nat := 255

/-- A path must be shorter than this. -/
def pathLimit : Nat := 4096

/-- So many symbolic links are followed in one path. -/
def linkLimit : Nat := 40

namespace FileTree

/-! ## Nodes -/

/-- A tree with nothing but the root. -/
def empty : FileTree := ⟨#[{ content := .directory 0 [], mode := 0o755 }]⟩

/-- The node with a number. -/
def node? (t : FileTree) (n : NodeId) : Option Node := t.nodes[n]?

/-- Change a node. -/
def modify (t : FileTree) (n : NodeId) (f : Node → Node) : FileTree := ⟨t.nodes.modify n f⟩

/-- Add a node, which has no name yet. -/
def add (t : FileTree) (node : Node) : NodeId × FileTree := (t.nodes.size, ⟨t.nodes.push node⟩)

/-- The names in a directory; none if the node is no directory. -/
def names (t : FileTree) (dir : NodeId) : List (Octets × NodeId) :=
  match t.node? dir with
  | some { content := .directory _ names, .. } => names
  | _ => []

/-- The node is a directory. -/
def isDirectory (t : FileTree) (n : NodeId) : Bool :=
  match t.node? n with
  | some { content := .directory .., .. } => true
  | _ => false

/-- The directory above a directory. -/
def parent (t : FileTree) (dir : NodeId) : NodeId :=
  match t.node? dir with
  | some { content := .directory parent _, .. } => parent
  | _ => 0

/-- Change the names of a directory. -/
def rename (t : FileTree) (dir : NodeId) (now : Nat)
    (f : List (Octets × NodeId) → List (Octets × NodeId)) : FileTree :=
  t.modify dir fun node =>
    match node.content with
    | .directory parent names => { node with content := .directory parent (f names), changed := now }
    | _ => node

/-- Give a name to a node. -/
def enter (t : FileTree) (dir : NodeId) (now : Nat) (name : Octets) (n : NodeId) : FileTree :=
  t.rename dir now fun names => names.filter (·.1 ≠ name) ++ [(name, n)]

/-- Take a name away. -/
def leave (t : FileTree) (dir : NodeId) (now : Nat) (name : Octets) : FileTree :=
  t.rename dir now fun names => names.filter (·.1 ≠ name)

/-- The number of names that a node has. A directory has one in the directory above it, one in itself, and one in each
directory that is in it. -/
def nameCount (t : FileTree) (n : NodeId) : Nat :=
  if t.isDirectory n then 2 + ((t.names n).filter fun (_, m) => t.isDirectory m).length
  else
    t.nodes.foldl (fun count node =>
      match node.content with
      | .directory _ names => count + (names.filter (·.2 = n)).length
      | _ => count) 0

/-! ## Paths -/

/-- Where a path leads: the directory of its last name, that name, and the node if it is there. A path that
ends in points or in a slash has no last name. -/
structure Spot where
  directory : NodeId
  name : Octets
  node : Option NodeId

/-- Follow names from a directory. A symbolic link is followed if more names come after it, and at the end if
`follow` says so; `links` more of them are followed, and `steps` bounds the work. -/
def walk (t : FileTree) (follow : Bool) : Nat → Nat → NodeId → List Octets → Except OsError Spot
  | 0, _, _, _ => .error tooManyLinks
  | _, _, dir, [] => .ok ⟨t.parent dir, [], some dir⟩
  | steps + 1, links, dir, name :: rest =>
    if !t.isDirectory dir then .error .notADirectory
    else if name = [] ∨ name = ['.'] then walk t follow steps links dir rest
    else if name = ['.', '.'] then walk t follow steps links (t.parent dir) rest
    else if nameLimit < name.length then .error .nameTooLong
    else
      match (t.names dir).lookup name with
      | none => if rest.isEmpty then .ok ⟨dir, name, none⟩ else .error .noSuchFile
      | some n =>
        match t.node? n with
        | some { content := .link target, .. } =>
          if rest.isEmpty && !follow then .ok ⟨dir, name, some n⟩
          else
            match links with
            | 0 => .error tooManyLinks
            | links + 1 =>
              if target.isEmpty then .error .noSuchFile
              else walk t follow steps links (if target.head? = some '/' then 0 else dir)
                (Path.split target ++ rest)
        | _ => if rest.isEmpty then .ok ⟨dir, name, some n⟩ else walk t follow steps links n rest

/-- A bound for the work of following a path. -/
def walkSteps : Nat := 400000

/-- Where a path leads, which is relative to a directory unless it begins at the root. -/
def spot (t : FileTree) (here : NodeId) (path : Octets) (follow : Bool) : Except OsError Spot :=
  if path = [] then .error .noSuchFile
  else if '\x00' ∈ path then .error nulInName
  else if pathLimit ≤ path.length then .error .nameTooLong
  else t.walk follow walkSteps linkLimit (if path.head? = some '/' then 0 else here) (Path.split path)

/-- The node that a path leads to. -/
def find (t : FileTree) (here : NodeId) (path : Octets) (follow : Bool) : Except OsError NodeId := do
  match (← t.spot here path follow).node with
  | some n => pure n
  | none => throw .noSuchFile

/-- The content of a file. -/
def read (t : FileTree) (here : NodeId) (path : Octets) : Except OsError Octets := do
  let n ← t.find here path true
  match t.node? n with
  | some { content := .directory .., .. } => throw .isADirectory
  | some { content := .regular octets, .. } => pure octets.toList
  | _ => pure []

/-- The path of a directory from the root, `depth` bounds its length. -/
def placeFrom (t : FileTree) : Nat → NodeId → List Octets → List Octets
  | 0, _, names => names
  | depth + 1, dir, names =>
    if dir = 0 then names
    else
      let parent := t.parent dir
      match (t.names parent).find? (·.2 = dir) with
      | some (name, _) => placeFrom t depth parent (name :: names)
      | none => names

/-- A directory has a name, or is the root. -/
def isNamed (t : FileTree) (dir : NodeId) : Bool := dir = 0 || (t.names (t.parent dir)).any (·.2 = dir)

/-- The path of a directory. -/
def place (t : FileTree) (dir : NodeId) : Octets :=
  match t.placeFrom pathLimit dir [] with
  | [] => ['/']
  | names => names.flatMap ('/' :: ·)

/-- The first directory lies in the second, or is it; `depth` bounds the way up. -/
def isWithin (t : FileTree) (top : NodeId) : Nat → NodeId → Bool
  | 0, _ => false
  | depth + 1, dir => dir = top || (dir != 0 && isWithin t top depth (t.parent dir))

/-! ## Changing -/

/-- The last name of a path for something new; slashes at its end do not matter. -/
def freshSpot (t : FileTree) (here : NodeId) (path : Octets) : Except OsError Spot := do
  let trimmed := (path.reverse.dropWhile (· == '/')).reverse
  let spot ← t.spot here (if trimmed.isEmpty then path else trimmed) false
  if spot.node.isSome then throw .fileExists
  pure spot

/-- Add something new at a path. -/
def create (t : FileTree) (here : NodeId) (path : Octets) (node : Node) : Except OsError (NodeId × FileTree) := do
  let spot ← t.freshSpot here path
  let (n, t) := t.add node
  pure (n, t.enter spot.directory node.changed spot.name n)

/-- Make a directory. -/
def makeDirectory (t : FileTree) (here : NodeId) (path : Octets) (mode now : Nat) : Except OsError FileTree := do
  let spot ← t.freshSpot here path
  let (n, t) := t.add { content := .directory spot.directory [], mode, changed := now }
  pure (t.enter spot.directory now spot.name n)

/-- Take away the name of a file that is no directory. -/
def unlink (t : FileTree) (here : NodeId) (path : Octets) (now : Nat) : Except OsError FileTree := do
  let spot ← t.spot here path false
  match spot.node with
  | none => throw .noSuchFile
  | some n =>
    if t.isDirectory n then throw .isADirectory
    else pure (t.leave spot.directory now spot.name)

/-- Remove an empty directory. -/
def removeDirectory (t : FileTree) (here : NodeId) (path : Octets) (now : Nat) : Except OsError FileTree := do
  let last := ((path.reverse.dropWhile (· == '/')).takeWhile (· != '/')).reverse
  if last = ['.'] then throw invalidArgument
  if last = ['.', '.'] then throw notEmpty
  let trimmed := (path.reverse.dropWhile (· == '/')).reverse
  let spot ← t.spot here (if trimmed.isEmpty then path else trimmed) false
  match spot.node with
  | none => throw .noSuchFile
  | some n =>
    if !t.isDirectory n then throw .notADirectory
    else if n = 0 then throw busy
    else if !(t.names n).isEmpty then throw notEmpty
    else pure (t.leave spot.directory now spot.name)

/-- Give a file another name instead of the one it has. -/
def move (t : FileTree) (here : NodeId) (source target : Octets) (now : Nat) : Except OsError FileTree := do
  let strip (path : Octets) : Octets :=
    let trimmed := (path.reverse.dropWhile (· == '/')).reverse
    if trimmed.isEmpty then path else trimmed
  let s ← t.spot here (strip source) false
  match s.node with
  | none => throw .noSuchFile
  | some n =>
    let isDir := t.isDirectory n
    let d ← t.spot here (if isDir then strip target else target) false
    if s.name.isEmpty || d.name.isEmpty then throw busy
    match d.node with
    | some m =>
      if m = n then pure t
      else if isDir && !t.isDirectory m then throw .notADirectory
      else if !isDir && t.isDirectory m then throw .isADirectory
      else if isDir && !(t.names m).isEmpty then throw notEmpty
      else if isDir && t.isWithin n pathLimit d.directory then throw invalidArgument
      else pure ((t.leave s.directory now s.name).enter d.directory now d.name n
        |>.modify n fun node => match node.content with
          | .directory _ names => { node with content := .directory d.directory names }
          | _ => node)
    | none =>
      if isDir && t.isWithin n pathLimit d.directory then throw invalidArgument
      else pure ((t.leave s.directory now s.name).enter d.directory now d.name n
        |>.modify n fun node => match node.content with
          | .directory _ names => { node with content := .directory d.directory names }
          | _ => node)

/-- Give a file a further name. -/
def link (t : FileTree) (here : NodeId) (source target : Octets) (now : Nat) : Except OsError FileTree := do
  let n ← t.find here source false
  if t.isDirectory n then throw notPermitted
  let spot ← t.spot here target false
  if spot.node.isSome then throw .fileExists
  pure (t.enter spot.directory now spot.name n)

/-- Write octets into a file from a position on; a gap before them is filled with NUL. -/
def writeAt (t : FileTree) (n : NodeId) (position : Nat) (octets : Octets) (now : Nat) : FileTree :=
  t.modify n fun node =>
    match node.content with
    | .regular old =>
      let filled := (List.range (position - old.size)).foldl (fun a _ => a.push '\x00') old
      let written := octets.foldl (fun (a, i) c => (if i < a.size then a.set! i c else a.push c, i + 1))
        (filled, position)
      { node with content := .regular written.1, changed := now }
    | _ => node

/-- Cut a file to a length, or fill it up with NUL. -/
def resize (t : FileTree) (n : NodeId) (size now : Nat) : FileTree :=
  t.modify n fun node =>
    match node.content with
    | .regular old =>
      let filled := (List.range (size - old.size)).foldl (fun a _ => a.push '\x00') old
      { node with content := .regular (filled.extract 0 size), changed := now }
    | _ => node

/-- Put a file at a path of names from the root, with directories above it as they are needed. -/
def put (t : FileTree) (names : List Octets) (node : Node) : FileTree :=
  let above := names.dropLast.foldl (fun (acc : FileTree × NodeId) name =>
    let (t, dir) := acc
    match (t.names dir).lookup name with
    | some n => (t, n)
    | none =>
      let (n, t) := t.add { content := .directory dir [], mode := 0o755 }
      (t.enter dir 0 name n, n)) (t, 0)
  match names.getLast? with
  | none => t
  | some name =>
    match node.content, (above.1.names above.2).lookup name with
    | .directory .., some _ => above.1
    | content, _ =>
      let content := match content with
        | .directory _ entries => Content.directory above.2 entries
        | other => other
      let (n, t) := above.1.add { node with content }
      t.enter above.2 0 name n

end FileTree

end Diagnostics.Sandbox
