import Diagnostics.Sandbox.Tool.Number

/-!
# The beginnings and the ends of files

Tools that print the first or the last lines of files, or so many octets.
-/

namespace Diagnostics.Sandbox

/-! ## Beginnings -/

/-- The first lines of a text, how many are still wanted, and the rest of the text. -/
def firstLines : Nat → List Char → Octets → Octets × Nat × Octets
  | 0, seen, rest => (seen.reverse, 0, rest)
  | n + 1, seen, [] => (seen.reverse, n + 1, [])
  | n + 1, seen, c :: rest =>
    if c = '\n' then firstLines n (c :: seen) rest else firstLines (n + 1) (c :: seen) rest
termination_by _ _ rest => rest.length

namespace Work

/-- Reading a file failed. -/
def blameReading (path : Octets) (e : OsError) : Work Unit :=
  blame ("error reading ".toList ++ quoteName path ++ ": ".toList ++ e.words.toList)

/-- A file cannot be opened. -/
def blameOpening (path : Octets) (e : OsError) : Work Unit :=
  blame ("cannot open ".toList ++ quoteName path ++ " for reading: ".toList ++ e.words.toList)

/-- The name under which a file is shown. -/
def shownName (path : Octets) : Octets := if path = ['-'] then "standard input".toList else path

/-- Print the heads of files, if there are several. -/
def printHead (isFirst : Bool) (path : Octets) : Work Unit :=
  print ((if isFirst then [] else ['\n']) ++ "==> ".toList ++ shownName path ++ " <==\n".toList)

/-- So much is read at once. -/
def headChunk : Nat := 1024

/-- Print the first lines; what has been read beyond them is given back where that can be done. -/
def headLines (path : Octets) (descriptor : Nat) : Nat → Nat → Work Unit
  | 0, _ => pure ()
  | _, 0 => pure ()
  | fuel + 1, count => do
    match ← ask (.read descriptor headChunk) with
    | .ok [] => pure ()
    | .ok cs => do
      let (shown, left, rest) := firstLines count [] cs
      print shown
      if left = 0 then
        unless rest.isEmpty do
          let _ ← ask (.seek descriptor (-(rest.length : Int)) 1)
      else headLines path descriptor fuel left
    | .error e => blameReading (shownName path) e

/-- Print the first octets. -/
def headOctets (path : Octets) (descriptor : Nat) : Nat → Nat → Work Unit
  | 0, _ => pure ()
  | _, 0 => pure ()
  | fuel + 1, count => do
    match ← ask (.read descriptor (min count headChunk)) with
    | .ok [] => pure ()
    | .ok cs => do
      print cs
      headOctets path descriptor fuel (count - cs.length)
    | .error e => blameReading (shownName path) e

/-- A number of lines or octets: the sign before it, and the number. -/
def amount (octets : Bool) (cs : Octets) : Work (Option Char × Nat) := do
  let (sign, digits) := match cs with
    | '-' :: rest => (some '-', rest)
    | '+' :: rest => (some '+', rest)
    | rest => (none, rest)
  match countOf? digits with
  | some n => pure (sign, n)
  | none =>
    fail (("invalid number of " ++ (if octets then "bytes" else "lines") ++ ": ").toList ++ quoteWord cs)

/-- Options that are a number after a hyphen, as they would be written otherwise. -/
def spellCount (args : List Octets) : List Octets :=
  match args with
  | ('-' :: c :: cs) :: rest =>
    if c.isDigit then
      let digits := (c :: cs).takeWhile Char.isDigit
      let letters := (c :: cs).drop digits.length
      (if letters.contains 'c' then "-c" else "-n").toList :: digits ::
        ((letters.filter (· ≠ 'c')).map fun l => ['-', l]) ++ rest
    else args
  | args => args

/-- The options of both tools. -/
def endRules : List OptionRule :=
  [⟨some 'n', "lines", .word⟩, ⟨some 'c', "bytes", .word⟩, ⟨some 'q', "quiet", .nothing⟩,
    ⟨none, "silent", .nothing⟩, ⟨some 'v', "verbose", .nothing⟩, ⟨some 'z', "zero-terminated", .nothing⟩]

/-- What both tools are asked for: whether octets are counted, the sign and the number. -/
def wanted (settings : Settings) : Work (Bool × Option Char × Nat) := do
  let octets := settings.lastOf ["lines", "bytes"] = some "bytes"
  match settings.last? (if octets then "bytes" else "lines") with
  | some cs => do
    let (sign, n) ← amount octets cs
    pure (octets, sign, n)
  | none => pure (octets, none, 10)

/-- Whether the names of files are shown. -/
def showsNames (settings : Settings) (paths : List Octets) : Bool :=
  match settings.lastOf ["quiet", "silent", "verbose"] with
  | some "verbose" => true
  | some _ => false
  | none => 1 < paths.length

/-- Do something with each file, after its name where names are shown. -/
def withEach (names : Bool) (paths : List Octets) (act : Octets → Nat → Work Unit) : Work Unit := do
  let _ ← paths.foldlM (fun (isFirst : Bool) path => do
    match ← openInput path with
    | .error e => do
      blameOpening path e
      pure isFirst
    | .ok descriptor => do
      if names then printHead isFirst path
      act path descriptor
      closeInput descriptor
      pure false) true

/-- Print the first lines of files. -/
def head (args : List Octets) : Work Nat := do
  let (settings, paths) ← readOptions endRules (spellCount args)
  let (octets, sign, n) ← wanted settings
  let paths := if paths.isEmpty then [['-']] else paths
  withEach (showsNames settings paths) paths fun path descriptor => do
    if sign = some '-' then
      match ← Task.readAll descriptor with
      | .error e => blameReading (shownName path) e
      | .ok content =>
        if octets then print (content.take (content.length - n))
        else
          let lines := linesOf content
          (lines.take (lines.length - n)).forM print
    else if octets then headOctets path descriptor Task.moveLimit n
    else headLines path descriptor Task.moveLimit n
  status

/-- Microseconds between two looks at a file that may grow. -/
def lookInterval : Nat := 1000000

/-- Go on printing what is added to a file. -/
def followFile (descriptor : Nat) : Nat → Work Unit
  | 0 => pure ()
  | fuel + 1 => do
    flush
    let _ ← ask (.sleep lookInterval)
    match ← Task.readAll descriptor with
    | .ok cs => print cs
    | .error _ => pure ()
    followFile descriptor fuel

/-- Print the last lines of files. -/
def tail (args : List Octets) : Work Nat := do
  let (settings, paths) ← readOptions
    (endRules ++ [⟨some 'f', "follow", .maybeWord⟩, ⟨some 'F', "F", .nothing⟩, ⟨some 's', "sleep-interval", .word⟩,
      ⟨none, "pid", .word⟩, ⟨none, "retry", .nothing⟩]) (spellCount args)
  let (octets, sign, n) ← wanted settings
  let paths := if paths.isEmpty then [['-']] else paths
  withEach (showsNames settings paths) paths fun path descriptor => do
    match ← Task.readAll descriptor with
    | .error e => blameReading (shownName path) e
    | .ok content =>
      if octets then print (content.drop (if sign = some '+' then n - 1 else content.length - n))
      else
        let lines := linesOf content
        (lines.drop (if sign = some '+' then n - 1 else lines.length - n)).forM print
      if (settings.has "follow" || settings.has "F") && paths.length = 1 && path ≠ ['-'] then
        followFile descriptor Task.moveLimit
  status

end Work

end Diagnostics.Sandbox
