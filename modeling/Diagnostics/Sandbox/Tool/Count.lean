import Diagnostics.Sandbox.Shell.Sum
import Diagnostics.Sandbox.Tool.Basic

/-!
# Counting

The tool that counts the lines, words, characters and octets of files.
-/

namespace Diagnostics.Sandbox

/-- What is counted. -/
structure Counts where
  lines : Nat := 0
  words : Nat := 0
  octets : Nat := 0
  longest : Nat := 0

namespace Counts

/-- Counting goes on within a word, or outside, and at a place of a line. -/
structure Place where
  counts : Counts := {}
  inWord : Bool := false
  column : Nat := 0

/-- Count a character. -/
def Place.add (p : Place) (c : Char) : Place :=
  let counts := { p.counts with octets := p.counts.octets + 1 }
  let counts := { counts with longest := max counts.longest p.column }
  if c = '\n' then { counts := { counts with lines := counts.lines + 1 }, inWord := false, column := 0 }
  else if c = '\r' || c = '\x0c' then { counts, inWord := false, column := 0 }
  else if c = '\t' then { counts, inWord := false, column := p.column + 8 - p.column % 8 }
  else if c = ' ' then { counts, inWord := false, column := p.column + 1 }
  else if c = '\x0b' then { counts, inWord := false, column := p.column }
  else if ' ' ≤ c && c ≤ '~' then
    { counts := { counts with words := counts.words + (if p.inWord then 0 else 1) }
      inWord := true, column := p.column + 1 }
  else { p with counts }

/-- Count a text. -/
def ofText (cs : Octets) : Counts :=
  let p := cs.foldl Place.add {}
  { p.counts with longest := max p.counts.longest p.column }

/-- The sum of counts. -/
def plus (a b : Counts) : Counts :=
  { lines := a.lines + b.lines, words := a.words + b.words, octets := a.octets + b.octets
    longest := max a.longest b.longest }

end Counts

/-- A count, filled up to a width. -/
def filled (width n : Nat) : Octets :=
  let ds := (toString n).toList
  List.replicate (width - ds.length) ' ' ++ ds

namespace Work

/-- The width of counts: enough for the sizes of all files, and more for what is no plain file. -/
def countWidth (paths : List Octets) : Work Nat := do
  let facts ← (if paths.isEmpty then [['-']] else paths).mapM fun path => do
    let found : Except OsError FileFacts ←
      if path = ['-'] then ask (.lookDescriptor 0) else ask (.look path true)
    pure found.toOption
  let known := facts.filterMap id
  let isPlain (f : FileFacts) : Bool :=
    match f.content with
    | .regular _ => true
    | _ => false
  let total := (known.filter isPlain).foldl (fun n f => n + f.size) 0
  let least := if known.all isPlain then 1 else 7
  match facts with
  | none :: _ => pure 1
  | _ => pure (max least (toString total).length)

/-- Count what is in files. -/
def wc (args : List Octets) : Work Nat := do
  let (settings, paths) ← readOptions
    [⟨some 'l', "lines", .nothing⟩, ⟨some 'w', "words", .nothing⟩, ⟨some 'm', "chars", .nothing⟩,
      ⟨some 'c', "bytes", .nothing⟩, ⟨some 'L', "max-line-length", .nothing⟩, ⟨none, "total", .word⟩] args
  let total ← match settings.last? "total" with
    | some word => choice "total" ["auto", "always", "only", "never"] word
    | none => pure "auto"
  let isBare := !settings.any (·.1 != "total")
  let columns : List (Bool × (Counts → Nat)) :=
    [(isBare || settings.has "lines", (·.lines)), (isBare || settings.has "words", (·.words)),
      (settings.has "chars", (·.octets)), (isBare || settings.has "bytes", (·.octets)),
      (settings.has "max-line-length", (·.longest))]
  let shown := (columns.filter (·.1)).map (·.2)
  let isAlone := shown.length = 1 && paths.length ≤ 1
  let width ← if isAlone || total = "only" then pure 1 else countWidth paths
  let showCounts (c : Counts) (name : Octets) : Work Unit :=
    printLine ([' '].intercalate (shown.map fun f => filled width (f c)) ++ (if name.isEmpty then [] else ' ' :: name))
  let sum ← (if paths.isEmpty then [['-']] else paths).foldlM (fun (sum : Counts) path => do
    match ← openInput path with
    | .error e => do
      blameFile path e
      pure sum
    | .ok descriptor => do
      let (content, problem) ← match ← Task.readAll descriptor with
        | .ok content => pure (content, none)
        | .error e => pure ([], some e)
      closeInput descriptor
      match problem with
      | some e => blameFile path e
      | none => pure ()
      let c := Counts.ofText content
      if total ≠ "only" then
        showCounts c (if paths.isEmpty then [] else if needsQuotes false path && path.contains '\n' then quoteName path
          else path)
      pure (sum.plus c)) {}
  if total = "only" then showCounts sum []
  else if total = "always" || (total = "auto" && 1 < paths.length) then showCounts sum "total".toList
  status

end Work

end Diagnostics.Sandbox
