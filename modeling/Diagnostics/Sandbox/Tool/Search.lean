import Diagnostics.Sandbox.Tool.Basic
import Diagnostics.Sandbox.Tool.Count
import Diagnostics.Sandbox.Tool.Names
import Diagnostics.Sandbox.Tool.TextPattern

/-!
# Looking for lines

The tool that prints the lines in which a pattern is found.
-/

namespace Diagnostics.Sandbox

/-- What is looked for, and how lines are shown. -/
structure LineSearch where
  find : Array Char → Nat → Option (Nat × Nat)
  inverted : Bool := false
  counts : Bool := false
  listsHits : Bool := false
  listsMisses : Bool := false
  numbers : Bool := false
  names : Bool := false
  offsets : Bool := false
  onlyParts : Bool := false
  quiet : Bool := false
  most : Option Nat := none
  before : Nat := 0
  after : Nat := 0
  hasContext : Bool := false
  asText : Bool := false

/-- The place of a text in another one, from a place on. -/
def placeOfText (folds : Bool) (word text : Array Char) : Nat → Nat → Option Nat
  | 0, _ => none
  | fuel + 1, start =>
    if text.size < start + word.size then none
    else if (List.range word.size).all fun k =>
        match word[k]?, text[start + k]? with
        | some a, some b => TextPattern.sameChar folds a b
        | _, _ => false then some start
    else placeOfText folds word text fuel (start + 1)

namespace LineSearch

/-- What stands before a line that is shown. -/
def lead (s : LineSearch) (name : Octets) (sign : Char) (number offset : Nat) : Octets :=
  (if s.names then name ++ [sign] else []) ++ (if s.numbers then (toString number).toList ++ [sign] else []) ++
    (if s.offsets then (toString offset).toList ++ [sign] else [])

/-- All parts of a line that are found, with their places. -/
def parts (s : LineSearch) (line : Array Char) : Nat → Nat → List (Nat × Octets)
  | 0, _ => []
  | fuel + 1, start =>
    match s.find line start with
    | none => []
    | some (a, b) =>
      if a = b then (if line.size ≤ a then [] else parts s line fuel (a + 1))
      else (a, (line.extract a b).toList) :: parts s line fuel b

/-- A line, with its number, its place, and whether it is what is looked for. -/
structure Seen where
  text : Octets
  number : Nat
  offset : Nat
  hits : Bool

/-- Mark lines, up to so many hits. -/
def marked (s : LineSearch) : List Octets → Nat → Nat → Nat → List Seen → List Seen
  | [], _, _, _, seen => seen.reverse
  | line :: rest, number, offset, hits, seen =>
    if s.most.any (· ≤ hits) then
      let more := ((line :: rest).take s.after).zipIdx.map fun (l, i) =>
        { text := l, number := number + i, offset, hits := false : Seen }
      seen.reverse ++ more
    else
      let found := (s.find line.toArray 0).isSome != s.inverted
      marked s rest (number + 1) (offset + line.length + 1) (if found then hits + 1 else hits)
        ({ text := line, number, offset, hits := found } :: seen)

end LineSearch

namespace Work

/-- Print the lines that are found, with lines around them. -/
def showHits (s : LineSearch) (name : Octets) (lines : List LineSearch.Seen) : Work Unit := do
  let all := lines.toArray
  let isNear (i : Nat) : Bool :=
    (List.range (s.before + 1)).any (fun k => (all[i + k]?).any (·.hits)) ||
      (List.range (s.after + 1)).any fun k => k ≤ i && (all[i - k]?).any (·.hits)
  let _ ← (lines.zipIdx).foldlM (fun (last : Option Nat) (l, i) => do
    if !(if s.hasContext then isNear i else l.hits) then pure last
    else
      if s.hasContext && last.any fun k => k + 1 < i then print "--\n".toList
      if s.onlyParts then
        if l.hits && !s.inverted then
          (s.parts l.text.toArray (l.text.length + 2) 0).forM fun (place, part) =>
            printLine (s.lead name ':' l.number (l.offset + place) ++ part)
      else printLine (s.lead name (if l.hits then ':' else '-') l.number l.offset ++ l.text)
      pure (some i)) none

/-- Look through a text; whether something has been found. -/
def searchText (s : LineSearch) (name : Octets) (content : Octets) : Work Bool := do
  let lines := s.marked ((linesOf content).map bare) 1 0 0 []
  let count := (lines.filter (·.hits)).length
  let found := 0 < count
  if s.quiet then pure found
  else if s.listsHits then do
    if found then printLine name
    pure found
  else if s.listsMisses then do
    unless found do printLine name
    pure (!found)
  else if s.counts then do
    printLine ((if s.names then name ++ [':'] else []) ++ (toString count).toList)
    pure found
  else if content.contains '\x00' && !s.asText then do
    if found then printLine ("Binary file ".toList ++ name ++ " matches".toList)
    pure found
  else do
    showHits s name lines
    pure found

/-- The files below a directory. -/
def filesBelow : Nat → Octets → Work (List Octets)
  | 0, _ => pure []
  | fuel + 1, path => do
    match ← ask (.look path false) with
    | .ok { content := .directory .., .. } =>
      match ← ask (.names path) with
      | .ok names => return (← names.mapM fun name => filesBelow fuel (below path name)).flatten
      | .error _ => pure []
    | .ok { content := .regular _, .. } => pure [path]
    | _ => pure []

/-- Options of the tool that looks for lines. -/
def searchRules : List OptionRule :=
  ([('E', "extended-regexp"), ('F', "fixed-strings"), ('G', "basic-regexp"), ('P', "perl-regexp"),
    ('i', "ignore-case"), ('y', "y"), ('w', "word-regexp"), ('x', "line-regexp"), ('s', "no-messages"),
    ('v', "invert-match"), ('b', "byte-offset"), ('n', "line-number"), ('H', "with-filename"), ('h', "no-filename"),
    ('o', "only-matching"), ('q', "quiet"), ('a', "text"), ('r', "recursive"), ('R', "dereference-recursive"),
    ('L', "files-without-match"), ('l', "files-with-matches"), ('c', "count"), ('U', "binary"), ('z', "null-data"),
    ('Z', "null"), ('T', "initial-tab"), ('I', "I")].map fun (c, name) => ⟨some c, name, .nothing⟩) ++
    [⟨some 'e', "regexp", .word⟩, ⟨some 'f', "file", .word⟩, ⟨some 'm', "max-count", .word⟩,
      ⟨some 'A', "after-context", .word⟩, ⟨some 'B', "before-context", .word⟩, ⟨some 'C', "context", .word⟩,
      ⟨none, "silent", .nothing⟩, ⟨none, "line-buffered", .nothing⟩, ⟨none, "no-ignore-case", .nothing⟩,
      ⟨none, "color", .maybeWord⟩, ⟨none, "colour", .maybeWord⟩, ⟨none, "label", .word⟩, ⟨none, "include", .word⟩,
      ⟨none, "exclude", .word⟩, ⟨none, "exclude-dir", .word⟩, ⟨some 'd', "directories", .word⟩,
      ⟨none, "binary-files", .word⟩]

/-- Find a pattern so that it is a word of its own, or the whole line. -/
def narrowed (words lines : Bool) (find : Array Char → Nat → Option (Nat × Nat)) (text : Array Char) (start : Nat) :
    Option (Nat × Nat) :=
  if lines then
    match find text 0 with
    | some (0, b) => if b = text.size && start = 0 then some (0, b) else none
    | _ => none
  else if words then
    let isWord (i : Nat) : Bool := (text[i]?).any TextPattern.isWordChar
    let rec go : Nat → Nat → Option (Nat × Nat)
      | 0, _ => none
      | fuel + 1, start =>
        match find text start with
        | none => none
        | some (a, b) =>
          if !(a ≠ 0 && isWord (a - 1)) && !isWord b then some (a, b) else if text.size ≤ a then none
          else go fuel (a + 1)
    go (text.size + 2) start
  else find text start

/-- Print the lines in which a pattern is found. -/
def grep (args : List Octets) : Work Nat := do
  modify fun t => { t with
    advice := "Usage: ".toList ++ t.name ++ " [OPTION]... PATTERNS [FILE]...\n".toList ++ whereHelpIs t.name }
  let digits := args.filterMap fun a => match a with
    | '-' :: c :: cs => if (c :: cs).all Char.isDigit then some (c :: cs) else none
    | _ => none
  let args := args.filter fun a => match a with
    | '-' :: c :: cs => !(c :: cs).all Char.isDigit
    | _ => true
  let (settings, words) ← readOptions searchRules args
  let any (names : List String) : Bool := names.any settings.has
  let given ← (settings.filter fun o => o.1 == "regexp" || o.1 == "file").mapM fun (name, value) => do
    let value := value.getD []
    if name == "regexp" then pure [value]
    else
      match ← contentOf value with
      | .ok content => pure ((linesOf content).map bare)
      | .error e => fail (quoteNameIfNeeded value ++ ": ".toList ++ e.words.toList)
  let (patterns, paths) ← match any ["regexp", "file"], words with
    | true, words => pure (given.flatten, words)
    | false, pattern :: words => pure ([pattern], words)
    | false, [] => pointToHelp
  let patterns := patterns.flatMap fun p =>
    (String.ofList p).splitOn "\n" |>.map String.toList
  let folds := any ["ignore-case", "y"]
  let kind := settings.lastOf ["extended-regexp", "fixed-strings", "basic-regexp", "perl-regexp"]
  let isFixed := kind = some "fixed-strings"
  let extended := kind = some "extended-regexp" || kind = some "perl-regexp"
  let lines := settings.has "line-regexp"
  let finders ← patterns.mapM fun p => do
    if isFixed then
      let word := p.toArray
      pure fun (text : Array Char) (start : Nat) =>
        (placeOfText folds word text (text.size + 1) start).map fun a => (a, a + word.size)
    else
      let p := if lines then (if extended then "^(".toList ++ p ++ ")$".toList else "^\\(".toList ++ p ++ "\\)$".toList)
        else p
      let style : PatternStyle := { extended, folds }
      match TextPattern.ofText style p with
      | .ok rule => pure fun (text : Array Char) (start : Nat) =>
          (rule.search style text start).map fun (a, r) => (a, r.place)
      | .error f => fail f.message.toList
  let find (text : Array Char) (start : Nat) : Option (Nat × Nat) :=
    finders.foldl (fun best f =>
      match f text start, best with
      | some (a, b), some (c, d) => if a < c || (a = c && d < b) then some (a, b) else some (c, d)
      | some r, none => some r
      | none, best => best) none
  let number (name : String) : Work (Option Nat) := do
    match settings.last? name with
    | none => pure none
    | some cs =>
      if !cs.isEmpty && cs.all Char.isDigit then pure (some (takeNumeral 10 0 cs).1)
      else if name = "max-count" then fail "invalid max count".toList
      else fail (cs ++ ": invalid context length argument".toList)
  let around := (← number "context").or (digits.getLast?.map fun ds => (takeNumeral 10 0 ds).1)
  let before := (← number "before-context").or around
  let after := (← number "after-context").or around
  let recursive := any ["recursive", "dereference-recursive"]
  let quiet := any ["quiet", "silent"]
  let paths := if paths.isEmpty then (if recursive then [['.']] else [['-']]) else paths
  let files ← paths.mapM fun path => do
    if recursive && (← isThere path) then filesBelow 4096 path else pure [path]
  go settings find finders.isEmpty before after quiet recursive files.flatten
where
  /-- The path leads somewhere. -/
  isThere (path : Octets) : Work Bool := do
    match ← ask (.look path true) with
    | .ok _ => pure true
    | .error _ => pure false
  /-- Look through files. -/
  go (settings : Settings) (find : Array Char → Nat → Option (Nat × Nat)) (isNever : Bool)
      (before after : Option Nat) (quiet recursive : Bool) (files : List Octets) : Work Nat := do
    let any (names : List String) : Bool := names.any settings.has
    let lines := settings.has "line-regexp"
    let most ← match settings.last? "max-count" with
      | some cs => pure (some (takeNumeral 10 0 cs).1)
      | none => pure none
    let names := match settings.lastOf ["with-filename", "no-filename"] with
      | some "with-filename" => true
      | some _ => false
      | none => recursive || 1 < files.length
    let s : LineSearch :=
      { find := if isNever then fun _ _ => none else narrowed (settings.has "word-regexp") lines find
        inverted := settings.has "invert-match", counts := settings.has "count"
        listsHits := settings.lastOf ["files-with-matches", "files-without-match"] = some "files-with-matches"
        listsMisses := settings.lastOf ["files-with-matches", "files-without-match"] = some "files-without-match"
        numbers := settings.has "line-number", names, offsets := settings.has "byte-offset"
        onlyParts := settings.has "only-matching", quiet, most, before := before.getD 0, after := after.getD 0
        hasContext := before.isSome || after.isSome, asText := any ["text"] }
    let results ← files.mapM fun path => do
      let name := if path = ['-'] then (settings.last? "label").getD "(standard input)".toList else path
      let isDirectory : Bool := match ← ask (.look path true) with
        | .ok { content := .directory .., .. } => path ≠ ['-']
        | _ => false
      if isDirectory then
        unless settings.has "no-messages" do complain (path ++ ": Is a directory".toList)
        modify fun t => { t with status := 2 }
        pure false
      else
        match ← contentOf path with
        | .ok content => searchText s name content
        | .error e => do
          unless settings.has "no-messages" do
            complain ((if path = ['-'] then "(standard input)".toList else path) ++ ": ".toList ++ e.words.toList)
          modify fun t => { t with status := 2 }
          pure false
    let found := results.any id
    let bad ← status
    pure (if found && quiet then 0 else if bad ≠ 0 then bad else if found then 0 else 1)

end Work

end Diagnostics.Sandbox
