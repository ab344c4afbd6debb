import Diagnostics.Sandbox.Tool.Basic

/-!
# What is known of files

The kind of a file, its permissions and the room that it takes, and the tool that says what is known of files.
-/

namespace Diagnostics.Sandbox

/-! ## Facts -/

/-- The letter of the kind of a file. -/
def kindLetter : Content → Char
  | .directory .. => 'd'
  | .regular _ => '-'
  | .program _ => '-'
  | .link _ => 'l'
  | .fifo => 'p'
  | .device _ => 'c'

/-- The kind of a file in words. -/
def kindWords (f : FileFacts) : String :=
  match f.content with
  | .directory .. => "directory"
  | .regular _ => if f.size = 0 then "regular empty file" else "regular file"
  | .program _ => "regular file"
  | .link _ => "symbolic link"
  | .fifo => "fifo"
  | .device _ => "character special file"

/-- Permissions as nine letters. -/
def permissionLetters (mode : Nat) : Octets :=
  let three (bits : Nat) (special : Bool) (letter : Char) : Octets :=
    [if bits &&& 4 ≠ 0 then 'r' else '-', if bits &&& 2 ≠ 0 then 'w' else '-',
      if special then (if bits &&& 1 ≠ 0 then letter else letter.toUpper) else if bits &&& 1 ≠ 0 then 'x' else '-']
  three (mode / 64 % 8) (mode &&& 0o4000 ≠ 0) 's' ++ three (mode / 8 % 8) (mode &&& 0o2000 ≠ 0) 's' ++
    three (mode % 8) (mode &&& 0o1000 ≠ 0) 't'

/-- Blocks of a kilobyte that a file takes. -/
def blocksOf (f : FileFacts) : Nat :=
  match f.content with
  | .directory .. => 4
  | .regular _ => (f.size + 4095) / 4096 * 4
  | _ => 0

namespace Work

/-! ## Telling facts -/

/-- A format with the facts of a file in it. -/
def factsText (path : Octets) (f : FileFacts) : Nat → Octets → Octets
  | 0, _ => []
  | _, [] => []
  | fuel + 1, '%' :: c :: rest =>
    let shown : Octets := match c with
      | 'n' => path
      | 'N' => quoteName path
      | 's' => (toString f.size).toList
      | 'a' => Nat.toDigits 8 f.mode
      | 'A' => kindLetter f.content :: permissionLetters f.mode
      | 'F' => (kindWords f).toList
      | 'h' => (toString f.names).toList
      | 'i' => (toString (f.id + 1000)).toList
      | 'u' => ['0']
      | 'g' => ['0']
      | 'U' => "root".toList
      | 'G' => "root".toList
      | 'Y' => (toString (f.changed / 1000000)).toList
      | 'X' => (toString (f.changed / 1000000)).toList
      | 'Z' => (toString (f.changed / 1000000)).toList
      | 'b' => (toString (blocksOf f * 2)).toList
      | 'B' => "512".toList
      | '%' => ['%']
      | c => ['?', c].take 1
    shown ++ factsText path f fuel rest
  | fuel + 1, c :: rest => c :: factsText path f fuel rest

/-- Say what is known of files. -/
def stat (args : List Octets) : Work Nat := do
  let (settings, paths) ← readOptions
    [⟨some 'c', "format", .word⟩, ⟨none, "printf", .word⟩, ⟨some 'L', "dereference", .nothing⟩,
      ⟨some 'f', "file-system", .nothing⟩, ⟨some 't', "terse", .nothing⟩] args
  if paths.isEmpty then missingOperand
  paths.forM fun path => do
    match ← ask (.look path (settings.has "dereference")) with
    | .error e => blame ("cannot statx ".toList ++ quoteName path ++ ": ".toList ++ e.words.toList)
    | .ok facts =>
      match settings.last? "format", settings.last? "printf" with
      | some format, _ => printLine (factsText path facts (format.length + 1) format)
      | none, some format => print (factsText path facts (format.length + 1) format)
      | none, none => printLine ("  File: ".toList ++ path)
  status

end Work

end Diagnostics.Sandbox
