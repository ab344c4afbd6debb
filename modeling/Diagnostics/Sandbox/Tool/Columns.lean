import Diagnostics.Sandbox.Tool.Number

/-!
# Columns

Tools that take parts of lines, and that put lines side by side.
-/

namespace Diagnostics.Sandbox

/-- A range of places in a line; it may have no end. -/
structure PlaceRange where
  first : Nat
  last : Option Nat

/-- The range holds a place. -/
def PlaceRange.holds (r : PlaceRange) (n : Nat) : Bool := r.first ≤ n && r.last.all (n ≤ ·)

namespace Work

/-! ## Parts of lines -/

/-- Read a range of a list. -/
def placeRange (isField : Bool) (cs : Octets) : Work PlaceRange := do
  let a := cs.takeWhile Char.isDigit
  let rest := cs.drop a.length
  let number (ds : Octets) : Nat := (takeNumeral 10 0 ds).1
  let invalid : Work PlaceRange :=
    if cs.any fun c => !c.isDigit && c != '-' then
      misuse ("invalid ".toList ++ (if isField then "field value " else "byte/character position ").toList ++
        quoteWord (cs.dropWhile fun c => c.isDigit || c == '-'))
    else misuse ("invalid ".toList ++ (if isField then "field range" else "byte or character range").toList)
  let zero : Work PlaceRange :=
    misuse ((if isField then "fields are" else "byte/character positions are").toList ++ " numbered from 1".toList)
  match rest with
  | [] => if a.isEmpty then zero else if number a = 0 then zero else pure ⟨number a, some (number a)⟩
  | '-' :: b =>
    if !b.all Char.isDigit then invalid
    else if a.isEmpty && b.isEmpty then misuse "invalid range with no endpoint: -".toList
    else if !a.isEmpty && number a = 0 then zero
    else
      let first := if a.isEmpty then 1 else number a
      let last := if b.isEmpty then none else some (number b)
      if last.any (· < first) then misuse "invalid decreasing range".toList else pure ⟨first, last⟩
  | _ => invalid

/-- What the tool that takes parts of lines is asked for. -/
structure CutWish where
  list : Option (Bool × Octets) := none
  delimiter : Option Octets := none

/-- Read one option; some faults are found before the next option is read. -/
def CutWish.read (w : CutWish) (option : String × Option Octets) : Work CutWish := do
  let value := option.2.getD []
  let list (isField : Bool) : Work CutWish := do
    if w.list.isSome then misuse "only one list may be specified".toList
    pure { w with list := some (isField, value) }
  match option.1 with
  | "bytes" => list false
  | "characters" => list false
  | "fields" => list true
  | "delimiter" => do
    if 1 < value.length then misuse "the delimiter must be a single character".toList
    pure { w with delimiter := some value }
  | _ => pure w

/-- The characters at places of a line, with a text wherever there is a gap between ranges. -/
def keptChars (ranges : List PlaceRange) (complement : Bool) (between : Option Octets) (text : Octets) : Octets :=
  let holds (n : Nat) : Bool := ranges.any (·.holds n) != complement
  let kept := (text.zipIdx).filter fun (_, i) => holds (i + 1)
  match between with
  | none => kept.map (·.1)
  | some between =>
    let (shown, _) := kept.foldl (fun (out, last) (c, i) =>
      let starts := ranges.any fun r => r.first = i + 1
      let gap := match last with
        | some j => starts && !(ranges.any fun r => r.first ≤ i && r.holds (i + 1)) || j + 1 ≠ i
        | none => false
      (c :: (if gap then between.reverse else []) ++ out, some i)) (([] : Octets), (none : Option Nat))
    shown.reverse

/-- The fields between signs. -/
def fieldsOf (sign : Char) (text : Octets) : List Octets :=
  let fields := (piecesOf sign text).map (bareOf sign)
  if text.getLast? = some sign || text.isEmpty then fields ++ [[]] else fields

/-- Print parts of the lines of files. -/
def cut (args : List Octets) : Work Nat := do
  let (settings, paths) ← readOptions
    [⟨some 'b', "bytes", .word⟩, ⟨some 'c', "characters", .word⟩, ⟨some 'f', "fields", .word⟩,
      ⟨some 'd', "delimiter", .word⟩, ⟨some 's', "only-delimited", .nothing⟩, ⟨some 'n', "n", .nothing⟩,
      ⟨none, "complement", .nothing⟩, ⟨none, "output-delimiter", .word⟩, ⟨some 'z', "zero-terminated", .nothing⟩] args
  let wish ← settings.foldlM CutWish.read {}
  let (isField, list) ← match wish.list with
    | some list => pure list
    | none => misuse "you must specify a list of bytes, characters, or fields".toList
  if !isField && wish.delimiter.isSome then
    misuse "an input delimiter may be specified only when operating on fields".toList
  if !isField && settings.has "only-delimited" then
    misuse "suppressing non-delimited lines makes sense\n\tonly when operating on fields".toList
  let ranges ← (fieldsOf ',' (list.map fun c => if c = ' ' || c = '\t' then ',' else c)).mapM (placeRange isField)
  let complement := settings.has "complement"
  let sign := (wish.delimiter.getD ['\t']).headD '\x00'
  let output := settings.last? "output-delimiter"
  let ending := settings.lineSign
  let show1 (cs : Octets) : Work Unit := print (cs ++ [ending])
  (← contentsOf paths).forM fun (_, content) => (piecesOf ending content).forM fun line => do
    let text := bareOf ending line
    if isField then
      let fields := fieldsOf sign text
      if fields.length = 1 then
        unless settings.has "only-delimited" do show1 text
      else
        let kept := (fields.zipIdx).filter fun (_, i) => ranges.any (·.holds (i + 1)) != complement
        show1 ((output.getD [sign]).intercalate (kept.map (·.1)))
    else show1 (keptChars ranges complement output text)
  status

/-! ## Lines side by side -/

/-- The signs between columns, with their escapes replaced. -/
def columnSigns : Octets → List Octets
  | '\\' :: c :: rest =>
    (if c = 'n' then ['\n'] else if c = 't' then ['\t'] else if c = '0' then [] else [c]) :: columnSigns rest
  | c :: rest => [c] :: columnSigns rest
  | [] => []

/-- Put parts together, with signs between them in turn. -/
def joinWith (signs : List Octets) (parts : List Octets) : Octets :=
  ((parts.zipIdx).map fun (p, i) => if i = 0 then p else signs.getD ((i - 1) % max 1 signs.length) [] ++ p).flatten

/-- Put the lines of files side by side, or the lines of each file in one line. -/
def paste (args : List Octets) : Work Nat := do
  let (settings, paths) ← readOptions
    [⟨some 'd', "delimiters", .word⟩, ⟨some 's', "serial", .nothing⟩, ⟨some 'z', "zero-terminated", .nothing⟩] args
  let signs := columnSigns ((settings.last? "delimiters").getD ['\t'])
  let ending := settings.lineSign
  let lines (content : Octets) : List Octets := (piecesOf ending content).map (bareOf ending)
  let paths := if paths.isEmpty then [['-']] else paths
  let hyphens := (paths.filter (· = ['-'])).length
  let input ← if hyphens = 0 then pure [] else do
    match ← contentOf ['-'] with
    | .ok content => pure (lines content)
    | .error e => do
      blameFile ['-'] e
      pure []
  let isSerial := settings.has "serial"
  let files ← paths.zipIdx.mapM fun (path, i) => do
    if path = ['-'] then
      let turn := ((paths.take i).filter (· = ['-'])).length
      if isSerial then pure [if turn = 0 then input else []]
      else pure [((input.zipIdx).filter fun (_, j) => j % hyphens = turn).map (·.1)]
    else
      match ← contentOf path with
      | .ok content => pure [lines content]
      | .error e => do
        blameFile path e
        if isSerial then pure [] else giveUp
  let files := files.flatten
  if isSerial then files.forM fun lines => print (joinWith signs lines ++ [ending])
  else
    let count := files.foldl (fun n lines => max n lines.length) 0
    let rows := files.map List.toArray
    (List.range count).forM fun i => print (joinWith signs (rows.map fun lines => lines.getD i []) ++ [ending])
  status

/-! ## Narrow lines -/

/-- How long lines are broken. -/
structure Folding where
  width : Nat
  atBlanks : Bool
  octets : Bool

namespace Folding

/-- The column after a character. -/
def advance (f : Folding) (column : Nat) (c : Char) : Nat :=
  if f.octets then column + 1
  else if c = '\x08' then column - 1
  else if c = '\r' then 0
  else if c = '\t' then column + 8 - column % 8
  else column + 1

/-- Break a line. `piece` is what is in the present piece, the last character first, and `column` is where it ends. -/
def broken (f : Folding) : Nat → Octets → Octets → Nat → List Octets → List Octets
  | 0, _, piece, _, done => (piece.reverse :: done).reverse
  | _, [], piece, _, done => (piece.reverse :: done).reverse
  | fuel + 1, c :: rest, piece, column, done =>
    let next := f.advance column c
    if next ≤ f.width then broken f fuel rest (c :: piece) next done
    else
      let after := piece.takeWhile fun d => d != ' ' && d != '\t'
      let kept := piece.drop after.length
      if f.atBlanks && !kept.isEmpty then
        broken f fuel (c :: rest) after (after.reverse.foldl f.advance 0) (kept.reverse :: done)
      else if piece.isEmpty then broken f fuel rest [c] next done
      else broken f fuel (c :: rest) [] 0 (piece.reverse :: done)

end Folding

/-- Break lines that are longer than a width. -/
def fold (args : List Octets) : Work Nat := do
  let digitRules : List OptionRule := "0123456789".toList.map fun c => ⟨some c, c.toString, .maybeWord⟩
  let (settings, paths) ← readOptions
    ([⟨some 'w', "width", .word⟩, ⟨some 's', "spaces", .nothing⟩, ⟨some 'b', "bytes", .nothing⟩] ++ digitRules) args
  let width ← settings.foldlM (fun (width : Nat) (name, value) => do
    let count := countBetween "invalid number of columns" 1 (greatestCount - 9)
    if name == "width" then count (value.getD [])
    else if name.all Char.isDigit then count (name.toList ++ value.getD [])
    else pure width) 80
  let f : Folding := { width, atBlanks := settings.has "spaces", octets := settings.has "bytes" }
  (← contentsOf paths).forM fun (_, content) => (linesOf content).forM fun line => do
    let text := bare line
    let pieces := f.broken (3 * text.length + 3) text [] 0 []
    print (['\n'].intercalate pieces ++ (if line.getLast? = some '\n' then ['\n'] else []))
  status

end Work

end Diagnostics.Sandbox
