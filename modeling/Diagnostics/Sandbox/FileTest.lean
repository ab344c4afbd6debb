import Diagnostics.Sandbox.Task

/-!
# Tests of files

What may be asked about a file, and the order of texts and files by which conditions compare them. Everything may be
read and written here, so that only what is there can be asked.
-/

namespace Diagnostics.Sandbox

/-- Tests of one file. -/
inductive FileTest
  | there
  | directory
  | plain
  | link
  | fifo
  | characters
  | never
  | filled
  | runs
  | bit (mask : Nat)
  deriving DecidableEq

namespace FileTest

/-- The test with a letter. -/
def ofLetter? : Char → Option FileTest
  | 'e' => some .there
  | 'r' => some .there
  | 'w' => some .there
  | 'O' => some .there
  | 'G' => some .there
  | 'd' => some .directory
  | 'f' => some .plain
  | 'h' => some .link
  | 'L' => some .link
  | 'p' => some .fifo
  | 'c' => some .characters
  | 'b' => some .never
  | 'S' => some .never
  | 's' => some .filled
  | 'x' => some .runs
  | 'u' => some (.bit 0o4000)
  | 'g' => some (.bit 0o2000)
  | 'k' => some (.bit 0o1000)
  | _ => none

/-- Links are followed, unless it is asked whether there is one. -/
def follows (t : FileTest) : Bool := t ≠ .link

/-- A file passes the test. -/
def holds (t : FileTest) (f : FileFacts) : Bool :=
  match t, f.content with
  | .there, _ => true
  | .directory, .directory .. => true
  | .plain, .regular _ => true
  | .plain, .program _ => true
  | .link, .link _ => true
  | .fifo, .fifo => true
  | .characters, .device _ => true
  | .filled, .program _ => true
  | .filled, _ => 0 < f.size
  | .runs, .directory .. => true
  | .runs, _ => f.mode &&& 0o111 ≠ 0
  | .bit mask, _ => f.mode &&& mask ≠ 0
  | _, _ => false

end FileTest

namespace FileFacts

/-- The first file has been changed after the second one. -/
def isNewer (f g : FileFacts) : Bool := g.changed < f.changed

/-- Both are one file. -/
def isSame (f g : FileFacts) : Bool := f.id == g.id

end FileFacts

end Diagnostics.Sandbox
