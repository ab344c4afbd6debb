import Diagnostics.Sandbox.Tool.Order

/-!
# Equal lines

Tools that look for equal lines: in neighbours of one file, and in two files whose lines are in order.
-/

namespace Diagnostics.Sandbox

namespace Work

/-! ## Equal neighbours -/

/-- Which lines of groups of equal lines are shown: those that have no equals, the last line of a group, or the first
if it stands for all, and those before it. -/
structure GroupShare where
  alone : Bool := true
  final : Bool := true
  others : Bool := false

/-- Where empty lines stand between groups. -/
structure GroupGaps where
  first : Bool := false
  between : Bool := false
  last : Bool := false

/-- What the tool that leaves out equal neighbours is asked for. -/
structure UniqueWish where
  share : GroupShare := {}
  counts : Bool := false
  dividesRepeated : Option GroupGaps := none
  divides : Option GroupGaps := none
  fields : Nat := 0
  chars : Nat := 0
  width : Option Nat := none

/-- Read one option; some faults are found before the next option is read. -/
def UniqueWish.read (w : UniqueWish) (option : String × Option Octets) : Work UniqueWish := do
  let value := option.2.getD []
  let number (what : String) (cs : Octets) : Work Nat :=
    if !cs.isEmpty && cs.all Char.isDigit then pure (takeNumeral 10 0 cs).1
    else fail (cs ++ (": invalid number of " ++ what).toList)
  match option.1 with
  | "count" => pure { w with counts := true }
  | "repeated" => pure { w with share := { w.share with alone := false } }
  | "unique" => pure { w with share := { w.share with final := false } }
  | "D" => pure { w with share := { w.share with alone := false, others := true } }
  | "all-repeated" => do
    let name ← match option.2 with
      | none => pure "none"
      | some word => choice "all-repeated" ["none", "prepend", "separate"] word
    let gaps : Option GroupGaps := match name with
      | "prepend" => some { first := true, between := true }
      | "separate" => some { between := true }
      | _ => none
    pure { w with share := { w.share with alone := false, others := true }, dividesRepeated := gaps }
  | "group" => do
    let name ← match option.2 with
      | none => pure "separate"
      | some word => choice "group" ["prepend", "append", "separate", "both"] word
    let gaps : GroupGaps :=
      { first := name = "prepend" || name = "both", between := true, last := name = "append" || name = "both" }
    pure { w with divides := some gaps }
  | "skip-fields" => do pure { w with fields := ← number "fields to skip" value }
  | "skip-chars" => do pure { w with chars := ← number "bytes to skip" value }
  | "check-chars" => do pure { w with width := some (← number "bytes to compare" value) }
  | name => pure (if name.all Char.isDigit then { w with fields := (takeNumeral 10 w.fields name.toList).1 } else w)

/-- The groups of neighbours with equal keys. -/
def groupsBy (key : Octets → Octets) (lines : List Octets) : List (List Octets) :=
  let add (line : Octets) : List (Octets × List Octets) → List (Octets × List Octets)
    | (k, group) :: rest => if k = key line then (k, line :: group) :: rest else (key line, [line]) :: (k, group) :: rest
    | [] => [(key line, [line])]
  (lines.foldl (fun groups line => add line groups) []).reverse.map (·.2.reverse)

/-- Put empty lines between groups of lines. -/
def GroupGaps.apply (gaps : GroupGaps) (groups : List (List Octets)) : List Octets :=
  if groups.isEmpty then []
  else
    (if gaps.first then [[]] else []) ++ (if gaps.between then [[]] else []).intercalate groups ++
      (if gaps.last then [[]] else [])

/-- The lines of a group that are shown. -/
def UniqueWish.shown (w : UniqueWish) (group : List Octets) : List Octets :=
  let count := (toString group.length).toList
  let mark (line : Octets) : Octets :=
    (if w.counts then List.replicate (7 - count.length) ' ' ++ count ++ [' '] else []) ++ line
  match group with
  | [] => []
  | [line] => if w.share.alone then [mark line] else []
  | first :: _ =>
    if w.share.others then group.dropLast ++ (if w.share.final then group.getLast?.toList else [])
    else if w.share.final then [mark first] else []

/-- Leave one line of several that are alike and follow each other. -/
def uniq (args : List Octets) : Work Nat := do
  let digitRules : List OptionRule := "0123456789".toList.map fun c => ⟨some c, c.toString, .nothing⟩
  let (settings, words) ← readOptions
    (digitRules ++ [⟨some 'c', "count", .nothing⟩, ⟨some 'd', "repeated", .nothing⟩, ⟨some 'D', "D", .nothing⟩,
      ⟨none, "all-repeated", .maybeWord⟩, ⟨none, "group", .maybeWord⟩, ⟨some 'f', "skip-fields", .word⟩,
      ⟨some 'i', "ignore-case", .nothing⟩, ⟨some 's', "skip-chars", .word⟩, ⟨some 'u', "unique", .nothing⟩,
      ⟨some 'w', "check-chars", .word⟩, ⟨some 'z', "zero-terminated", .nothing⟩]) args
  let isSkip : Octets → Bool
    | '+' :: c :: cs => (c :: cs).all Char.isDigit
    | _ => false
  let paths := words.filter (!isSkip ·)
  let skipped := ((words.filter isSkip).getLast?.map fun cs => (takeNumeral 10 0 (cs.drop 1)).1).getD 0
  let w ← settings.foldlM UniqueWish.read { chars := skipped }
  match paths.drop 2 with
  | extra :: _ => extraOperand extra
  | [] => pure ()
  if w.divides.isSome && ["count", "repeated", "D", "all-repeated", "unique"].any settings.has then
    misuse "--group is mutually exclusive with -c/-d/-D/-u".toList
  if w.counts && w.share.others then
    misuse "printing all duplicated lines and repeat counts is meaningless".toList
  let key (line : Octets) : Octets :=
    let rest := (SortKey.dropFields none w.fields line).drop w.chars
    let rest := match w.width with
      | some n => rest.take n
      | none => rest
    if settings.has "ignore-case" then rest.map Char.toUpper else rest
  let path := paths.headD ['-']
  let ending := settings.lineSign
  let descriptor ← match ← openInput path with
    | .ok n => pure n
    | .error e => fail (quoteNameIfNeeded path ++ ": ".toList ++ e.words.toList)
  let content ← match ← Task.readAll descriptor with
    | .ok content => pure content
    | .error e => fail ("error reading ".toList ++ quoteName path ++ ": ".toList ++ e.words.toList)
  let groups := groupsBy key ((piecesOf ending content).map (bareOf ending))
  let shown := match w.divides, w.dividesRepeated with
    | some gaps, _ => gaps.apply groups
    | none, some gaps => gaps.apply ((groups.map w.shown).filter (!·.isEmpty))
    | none, none => groups.flatMap w.shown
  match paths.drop 1 with
  | [] => shown.forM fun line => print (line ++ [ending])
  | target :: _ =>
    if target = ['-'] then shown.forM fun line => print (line ++ [ending])
    else
      match ← ask (.openFile target { writes := true, creates := true, empties := true } 0o666) with
      | .error e => fail (quoteNameIfNeeded target ++ ": ".toList ++ e.words.toList)
      | .ok n => do
        let _ ← Task.writeAll n (shown.flatMap (· ++ [ending]))
        let _ ← ask (.close n)
  status

/-! ## Equal lines of two files -/

/-- One of two files that are compared: the line before the present one, and the lines from that on. -/
structure OrderedFile where
  last : Option Octets := none
  lines : List Octets
  isWrong : Bool := false

/-- How lines of two files are compared. `strict` tells whether their order is checked, or only after a line that is
not in both. -/
structure Comparison where
  strict : Option Bool := none
  between : Octets := ['\t']
  hidden : Nat → Bool
  ending : Char := '\n'

/-- Print a line in its column. -/
def Comparison.write (c : Comparison) (column : Nat) (line : Octets) : Work Unit := do
  unless c.hidden column do
    let before := (List.range column).filter fun n => !c.hidden n
    print ((before.map fun _ => c.between).flatten ++ line ++ [c.ending])

/-- Go on to the next line of a file, and complain if that is not in order. -/
def Comparison.advance (c : Comparison) (number : Nat) (checks : Bool) (f : OrderedFile) : Work OrderedFile := do
  let after : OrderedFile := { f with last := f.lines.head?, lines := f.lines.drop 1 }
  let isWrong := match f.lines with
    | a :: b :: _ => compareOctets a b == .gt
    | [a] => f.last.any fun b => compareOctets b a == .gt
    | [] => false
  if isWrong && checks && !f.isWrong then
    complain ("file ".toList ++ (toString number).toList ++ " is not in sorted order".toList)
    if c.strict = some true then giveUp
    pure { after with isWrong := true }
  else pure after

/-- Compare files line by line; how many lines there are in each column, and whether an order was wrong. -/
def Comparison.run (c : Comparison) :
    Nat → OrderedFile → OrderedFile → Nat × Nat × Nat → Bool → Work ((Nat × Nat × Nat) × Bool)
  | 0, a, b, counts, _ => pure (counts, a.isWrong || b.isWrong)
  | fuel + 1, a, b, (first, second, both), hasOdd => do
    let checks (odd : Bool) : Bool := match c.strict with
      | some strict => strict
      | none => odd
    let order : Option (Ordering × Octets) := match a.lines, b.lines with
      | [], [] => none
      | x :: _, [] => some (.lt, x)
      | [], y :: _ => some (.gt, y)
      | x :: _, y :: _ => some (compareOctets x y, if compareOctets x y = .lt then x else y)
    match order with
    | none => pure ((first, second, both), a.isWrong || b.isWrong)
    | some (.lt, line) => do
      c.write 0 line
      run c fuel (← c.advance 1 (checks true) a) b (first + 1, second, both) true
    | some (.gt, line) => do
      c.write 1 line
      run c fuel a (← c.advance 2 (checks true) b) (first, second + 1, both) true
    | some (.eq, line) => do
      c.write 2 line
      let a ← c.advance 1 (checks hasOdd) a
      let b ← c.advance 2 (checks hasOdd) b
      run c fuel a b (first, second, both + 1) hasOdd

/-- Compare two files line by line. -/
def comm (args : List Octets) : Work Nat := do
  let (settings, paths) ← readOptions
    [⟨some '1', "1", .nothing⟩, ⟨some '2', "2", .nothing⟩, ⟨some '3', "3", .nothing⟩,
      ⟨none, "check-order", .nothing⟩, ⟨none, "nocheck-order", .nothing⟩, ⟨none, "output-delimiter", .word⟩,
      ⟨none, "total", .nothing⟩, ⟨some 'z', "zero-terminated", .nothing⟩] args
  match paths with
  | [] => missingOperand
  | [a] => missingAfter a
  | _ :: _ :: extra :: _ => extraOperand extra
  | [a, b] => do
    let ending := settings.lineSign
    let opened (path : Octets) : Work OrderedFile := do
      match ← contentOf path with
      | .ok content => pure { lines := (piecesOf ending content).map (bareOf ending) }
      | .error e => fail (quoteNameIfNeeded path ++ ": ".toList ++ e.words.toList)
    let first ← opened a
    let second ← opened b
    let c : Comparison :=
      { strict := (settings.lastOf ["check-order", "nocheck-order"]).map (· == "check-order")
        between := match settings.last? "output-delimiter" with
          | none => ['\t']
          | some [] => ['\x00']
          | some cs => cs
        hidden := fun n => settings.has (["1", "2", "3"].getD n ""), ending }
    let ((x, y, z), isWrong) ← c.run (first.lines.length + second.lines.length + 1) first second (0, 0, 0) false
    if settings.has "total" then
      print (c.between.intercalate (([x, y, z].map fun n => (toString n).toList) ++ ["total".toList]) ++ [ending])
    if isWrong then fail "input is not in sorted order".toList
    status

end Work

end Diagnostics.Sandbox
