import Diagnostics.Sandbox.Format
import Diagnostics.Sandbox.Shell.Pattern
import Diagnostics.Sandbox.Tool.Basic

/-!
# The order of lines

The tool that puts lines in order. What is compared may be a part of each line, and there are several ways to compare.
-/

namespace Diagnostics.Sandbox

/-! ## Keys -/

/-- How keys are compared. -/
structure KeyOrder where
  blanks : Bool := false
  endBlanks : Bool := false
  dictionary : Bool := false
  folds : Bool := false
  general : Bool := false
  human : Bool := false
  printing : Bool := false
  month : Bool := false
  numeric : Bool := false
  random : Bool := false
  reverse : Bool := false
  version : Bool := false
  deriving DecidableEq

/-- A part of a line that is compared: from a place in a field to a place in another one, or to the end. -/
structure SortKey where
  field : Nat := 0
  char : Nat := 0
  stop : Option (Nat × Nat) := none
  ordering : KeyOrder := {}

/-- A blank. -/
def isBlankSign (c : Char) : Bool := c == ' ' || c == '\t'

namespace SortKey

/-- Drop fields from the front. -/
def dropFields (sign : Option Char) : Nat → Octets → Octets
  | 0, cs => cs
  | _, [] => []
  | n + 1, cs =>
    match sign with
    | some s => dropFields sign n ((cs.dropWhile (· != s)).drop 1)
    | none => dropFields sign n ((cs.dropWhile isBlankSign).dropWhile (!isBlankSign ·))

/-- The length of the line up to the end of the key. -/
def reach (k : SortKey) (sign : Option Char) (line : Octets) : Nat :=
  match k.stop with
  | none => line.length
  | some (field, char) =>
    if char = 0 then
      match sign with
      | some s =>
        let rest := dropFields sign field line
        line.length - rest.length + (rest.takeWhile (· != s)).length
      | none => line.length - (dropFields sign (field + 1) line).length
    else
      let rest := dropFields sign field line
      let rest := if k.ordering.endBlanks then rest.dropWhile isBlankSign else rest
      min line.length (line.length - rest.length + char)

/-- The part of a line. -/
def part (k : SortKey) (sign : Option Char) (line : Octets) : Octets :=
  let rest := dropFields sign k.field line
  let rest := if k.ordering.blanks then rest.dropWhile isBlankSign else rest
  let rest := rest.drop k.char
  let start := line.length - rest.length
  rest.take (reach k sign line - start)

end SortKey

/-! ## Comparing -/

/-- Compare octets by their numbers. -/
def compareOctets : Octets → Octets → Ordering
  | [], [] => .eq
  | [], _ => .lt
  | _, [] => .gt
  | a :: as, b :: bs => if a < b then .lt else if b < a then .gt else compareOctets as bs

/-- The number at the beginning of a text: its sign, the digits before the point and those after it. -/
def plainNumber (cs : Octets) : Bool × Octets × Octets :=
  let cs := cs.dropWhile isBlankSign
  let (negative, cs) := match cs with
    | '-' :: rest => (true, rest)
    | rest => (false, rest)
  let whole := cs.takeWhile Char.isDigit
  let rest := cs.drop whole.length
  let after := match rest with
    | '.' :: more => more.takeWhile Char.isDigit
    | _ => []
  let whole := whole.dropWhile (· == '0')
  let after := (after.reverse.dropWhile (· == '0')).reverse
  (negative && !(whole.isEmpty && after.isEmpty), whole, after)

/-- Compare numbers without their signs. -/
def compareSizes (a b : Octets × Octets) : Ordering :=
  if a.1.length ≠ b.1.length then compare a.1.length b.1.length
  else
    match compareOctets a.1 b.1 with
    | .eq => compareOctets a.2 b.2
    | o => o

/-- Compare texts by the numbers at their beginnings. -/
def compareNumbers (a b : Octets) : Ordering :=
  match plainNumber a, plainNumber b with
  | (false, x), (false, y) => compareSizes x y
  | (true, x), (true, y) => compareSizes y x
  | (true, _), (false, _) => .lt
  | (false, _), (true, _) => .gt

/-- The order of the unit after a number. -/
def unitOrder (cs : Octets) : Nat :=
  let rest := (cs.dropWhile fun c => isBlankSign c || c == '-' || c.isDigit || c == '.')
  match rest with
  | c :: _ => if c = 'k' then 1 else (("KMGTPEZYRQ".toList.zipIdx).find? (·.1 = c)).elim 0 (·.2 + 1)
  | [] => 0

/-- Compare numbers with units. -/
def compareHuman (a b : Octets) : Ordering :=
  let sign (cs : Octets) : Int :=
    let (negative, w, f) := plainNumber cs
    if negative then -1 else if w.isEmpty && f.isEmpty then 0 else 1
  let key (cs : Octets) : Int := sign cs * (unitOrder cs + 1)
  if key a < key b then .lt else if key b < key a then .gt else compareNumbers a b

/-- Compare any numbers; a text that is none comes first. -/
def compareGeneral (a b : Octets) : Ordering :=
  let value (cs : Octets) : Int × Int × Nat :=
    match takeReal cs with
    | none => (0, 0, 1)
    | some (.undefined _, _) => (1, 0, 1)
    | some (.unbounded true, _) => (2, 0, 1)
    | some (.fraction negative n d, _) => (3, if negative then -(n : Int) else n, d)
    | some (.unbounded false, _) => (4, 0, 1)
  let (x, n, d) := value a
  let (y, m, e) := value b
  if x < y then .lt else if y < x then .gt
  else if n * e < m * d then .lt else if m * d < n * e then .gt else .eq

/-- The names of months. -/
def monthNames : List String :=
  ["JAN", "FEB", "MAR", "APR", "MAY", "JUN", "JUL", "AUG", "SEP", "OCT", "NOV", "DEC"]

/-- The number of the month at the beginning of a text. -/
def monthOf (cs : Octets) : Nat :=
  let name := ((cs.dropWhile isBlankSign).take 3).map Char.toUpper
  ((monthNames.zipIdx).find? fun (n, _) => n.toList = name).elim 0 (·.2 + 1)

/-- The place of a character in names with numbers. -/
def versionRank (c : Char) : Int :=
  if c.isDigit then 0 else if c = '~' then -1 else if c.isAlpha then c.toNat + 1 else c.toNat + 257

/-- Compare names with numbers in them. -/
def compareVersions : Nat → Octets → Octets → Ordering
  | 0, _, _ => .eq
  | fuel + 1, a, b =>
    let x := a.takeWhile (!Char.isDigit ·)
    let y := b.takeWhile (!Char.isDigit ·)
    let rank (cs : Octets) (i : Nat) : Int := (cs[i]?).elim 0 versionRank
    match (List.range (max x.length y.length)).find? fun i => rank x i != rank y i with
    | some i => if rank x i < rank y i then .lt else .gt
    | none =>
      let a := a.drop x.length
      let b := b.drop y.length
      if a.isEmpty && b.isEmpty then .eq
      else
        let m := (a.takeWhile Char.isDigit).dropWhile (· == '0')
        let n := (b.takeWhile Char.isDigit).dropWhile (· == '0')
        match compareSizes (m, []) (n, []) with
        | .eq => compareVersions fuel (a.dropWhile Char.isDigit) (b.dropWhile Char.isDigit)
        | o => o

/-- Compare keys. -/
def KeyOrder.compare (o : KeyOrder) (a b : Octets) : Ordering :=
  let isWord (c : Char) : Bool := isBlankSign c || c.isAlphanum
  let isPrinted (c : Char) : Bool := ' ' ≤ c && c ≤ '~'
  let prepare (cs : Octets) : Octets :=
    let cs := if o.dictionary then cs.filter isWord else if o.printing then cs.filter isPrinted else cs
    if o.folds then cs.map Char.toUpper else cs
  let result :=
    if o.numeric then compareNumbers a b
    else if o.general then compareGeneral a b
    else if o.human then compareHuman a b
    else if o.month then Ord.compare (monthOf a) (monthOf b)
    else if o.version then
      match compareVersions (a.length + b.length + 1) a b with
      | .eq => compareOctets a b
      | r => r
    else compareOctets (prepare a) (prepare b)
  if o.reverse then result.swap else result

/-- Compare lines by their keys. -/
def compareKeys (sign : Option Char) : List SortKey → Octets → Octets → Ordering
  | [], _, _ => .eq
  | k :: rest, a, b =>
    match k.ordering.compare (k.part sign a) (k.part sign b) with
    | .eq => compareKeys sign rest a b
    | o => o

/-- Ways to compare that do not go together, by their letters. -/
def KeyOrder.conflict? (o : KeyOrder) : Option Octets :=
  let flags : List (Char × Bool) :=
    [('d', o.dictionary), ('f', o.folds), ('g', o.general), ('h', o.human), ('i', o.printing && !o.dictionary),
      ('M', o.month), ('n', o.numeric), ('R', o.random), ('V', o.version)]
  let others := o.version || o.random || o.dictionary || o.printing
  let ways := [o.numeric, o.general, o.human, o.month, others].filter id
  if 1 < ways.length then some ((flags.filter (·.2)).map (·.1)) else none

namespace Work

/-! ## Putting in order -/

/-- Set what a letter says about an ordering. -/
def orderingLetter? (o : KeyOrder) (blanksAtEnd : Bool) : Char → Option KeyOrder
  | 'b' => some (if blanksAtEnd then { o with endBlanks := true } else { o with blanks := true })
  | 'd' => some { o with dictionary := true }
  | 'f' => some { o with folds := true }
  | 'g' => some { o with general := true }
  | 'h' => some { o with human := true }
  | 'i' => some { o with printing := true }
  | 'M' => some { o with month := true }
  | 'n' => some { o with numeric := true }
  | 'R' => some { o with random := true }
  | 'r' => some { o with reverse := true }
  | 'V' => some { o with version := true }
  | _ => none

/-- Read letters of an ordering. -/
def orderingLetters (blanksAtEnd : Bool) : KeyOrder → Octets → KeyOrder × Octets
  | o, [] => (o, [])
  | o, c :: cs =>
    match orderingLetter? o blanksAtEnd c with
    | some o => orderingLetters blanksAtEnd o cs
    | none => (o, c :: cs)

/-- Read a key. -/
def sortKey (text : Octets) : Work SortKey := do
  let bad (reason : String) : Work (Nat × Octets) :=
    fail ((reason ++ ": invalid field specification ").toList ++ quoteWord text)
  let number (cs : Octets) (reason : String) : Work (Nat × Octets) := do
    let ds := cs.takeWhile Char.isDigit
    if ds.isEmpty then
      fail (reason.toList ++ ": invalid count at start of ".toList ++ quoteWord cs)
    else pure ((takeNumeral 10 0 ds).1, cs.drop ds.length)
  let (field, rest) ← number text "invalid number at field start"
  if field = 0 then let _ ← bad "field number is zero"
  let (char, rest) ← match rest with
    | '.' :: rest => number rest "invalid number after '.'"
    | rest => pure (1, rest)
  if char = 0 then let _ ← bad "character offset is zero"
  let (ordering, rest) := orderingLetters false {} rest
  match rest with
  | [] => pure { field := field - 1, char := char - 1, ordering }
  | ',' :: rest => do
    let (stop, rest) ← number rest "invalid number after ','"
    if stop = 0 then let _ ← bad "field number is zero"
    let (stopChar, rest) ← match rest with
      | '.' :: rest => number rest "invalid number after '.'"
      | rest => pure (0, rest)
    let (ordering, rest) := orderingLetters true ordering rest
    unless rest.isEmpty do let _ ← bad "stray character in field spec"
    pure { field := field - 1, char := char - 1, stop := some (stop - 1, stopChar), ordering }
  | _ => do
    let _ ← bad "stray character in field spec"
    pure {}

/-- The options that say how lines are compared. -/
def orderingRules : List OptionRule :=
  [⟨some 'b', "ignore-leading-blanks", .nothing⟩, ⟨some 'd', "dictionary-order", .nothing⟩,
    ⟨some 'f', "ignore-case", .nothing⟩, ⟨some 'g', "general-numeric-sort", .nothing⟩,
    ⟨some 'h', "human-numeric-sort", .nothing⟩, ⟨some 'i', "ignore-nonprinting", .nothing⟩,
    ⟨some 'M', "month-sort", .nothing⟩, ⟨some 'n', "numeric-sort", .nothing⟩, ⟨some 'R', "random-sort", .nothing⟩,
    ⟨some 'r', "reverse", .nothing⟩,
    ⟨some 'V', "version-sort", .nothing⟩]

/-- Options do not go together. -/
def incompatible (letters : Octets) : Work α :=
  fail ("options '-".toList ++ letters ++ "' are incompatible".toList)

/-- The ways to compare by their names. -/
def orderingNames : List (String × Char) :=
  [("general-numeric", 'g'), ("human-numeric", 'h'), ("month", 'M'), ("numeric", 'n'), ("random", 'R'),
    ("version", 'V')]

/-- What the tool that puts lines in order is asked for. -/
structure SortWish where
  ordering : KeyOrder := {}
  keys : List SortKey := []
  sign : Option Char := none
  check : Option Char := none
  target : Option Octets := none
  merges : Bool := false
  stable : Bool := false
  unique : Bool := false

/-- Read one option; some faults are found before the next option is read. -/
def SortWish.read (w : SortWish) (option : String × Option Octets) : Work SortWish := do
  let value := option.2.getD []
  let letter (c : Char) : SortWish := { w with ordering := (orderingLetter? w.ordering false c).getD w.ordering }
  let check (c : Char) : Work SortWish :=
    if w.check.any (· ≠ c) then incompatible ['c', 'C'] else pure { w with check := some c }
  match option.1 with
  | "key" => do pure { w with keys := w.keys ++ [← sortKey value] }
  | "merge" => pure { w with merges := true }
  | "stable" => pure { w with stable := true }
  | "unique" => pure { w with unique := true }
  | "C" => check 'C'
  | "c" => check 'c'
  | "check" =>
    match option.2 with
    | none => check 'c'
    | some word => do
      let name ← choice "check" ["quiet", "silent", "diagnose-first"] word
      check (if name = "diagnose-first" then 'c' else 'C')
  | "output" => do
    if w.target.any (· ≠ value) then fail "multiple output files specified".toList
    pure { w with target := some value }
  | "field-separator" => do
    let sign ← match value with
      | [] => fail "empty tab".toList
      | [c] => pure c
      | ['\\', '0'] => pure '\x00'
      | cs => fail ("multi-character tab ".toList ++ quoteWord cs)
    if w.sign.any (· ≠ sign) then fail "incompatible tabs".toList
    pure { w with sign := some sign }
  | "sort" => do
    let name ← choice "sort" (orderingNames.map (·.1)) value
    pure (letter ((orderingNames.lookup name).getD 'n'))
  | name =>
    match (orderingRules.find? (·.name == name)).bind (·.letter) with
    | some c => pure (letter c)
    | none => pure w

/-- The keys that lines are compared by, which take over what is said of all if nothing is said of them. -/
def SortWish.whole (w : SortWish) : List SortKey :=
  if w.keys.isEmpty then (if { w.ordering with reverse := false } = ({} : KeyOrder) then [] else [{ ordering := w.ordering }])
  else w.keys.map fun k => if k.ordering = {} then { k with ordering := w.ordering } else k

/-- Compare lines by their keys, and as a last resort by all that is in them. -/
def SortWish.compareLines (w : SortWish) (a b : Octets) : Ordering :=
  let first := compareKeys w.sign w.whole a b
  if first ≠ .eq then first
  else if !w.whole.isEmpty && (w.unique || w.stable) then .eq
  else
    let last := compareOctets a b
    if w.ordering.reverse then last.swap else last

/-- Leave out lines that are equal to the one before. -/
def dropEqual (same : Octets → Octets → Bool) (lines : List Octets) : List Octets :=
  (lines.foldl (fun kept line =>
    match kept with
    | last :: _ => if same last line then kept else line :: kept
    | [] => [line]) []).reverse

/-- Check whether lines are in order. -/
def checkOrder (w : SortWish) (quiet : Bool) (ending : Char) (path : Octets) (lines : List Octets) : Work Nat := do
  let wrong := ((lines.zip (lines.drop 1)).zipIdx).find? fun ((a, b), _) =>
    match w.compareLines a b with
    | .gt => true
    | .eq => w.unique
    | .lt => false
  match wrong with
  | none => pure 0
  | some ((_, line), i) => do
    unless quiet do
      flush
      mutter ((← get).name ++ ": ".toList ++ path ++ ':' :: (toString (i + 2)).toList ++ ": disorder: ".toList ++
        line ++ [ending])
    pure 1

/-- Put lines in order. -/
def sort (args : List Octets) : Work Nat := do
  let (settings, paths) ← readOptions
    (orderingRules ++ [⟨some 'c', "c", .nothing⟩, ⟨none, "check", .maybeWord⟩, ⟨some 'C', "C", .nothing⟩, ⟨some 'k', "key", .word⟩,
      ⟨some 'm', "merge", .nothing⟩, ⟨some 'o', "output", .word⟩, ⟨some 's', "stable", .nothing⟩,
      ⟨some 't', "field-separator", .word⟩, ⟨some 'u', "unique", .nothing⟩, ⟨some 'z', "zero-terminated", .nothing⟩,
      ⟨some 'S', "buffer-size", .word⟩, ⟨some 'T', "temporary-directory", .word⟩, ⟨none, "parallel", .word⟩,
      ⟨none, "sort", .word⟩, ⟨none, "random-source", .word⟩, ⟨none, "batch-size", .word⟩]) args
  let w ← settings.foldlM SortWish.read {}
  match w.whole.findSome? (·.ordering.conflict?) with
  | some letters => incompatible letters
  | none => pure ()
  match w.check, paths.drop 1 with
  | some c, extra :: _ =>
    fail ("extra operand ".toList ++ quoteWord extra ++ " not allowed with -".toList ++ [c])
  | some c, [] => if w.target.isSome then incompatible [c, 'o']
  | none, _ => pure ()
  let paths := if paths.isEmpty then [['-']] else paths
  let trouble (what : String) (path : Octets) (e : OsError) : Work Unit :=
    fail (what.toList ++ ": ".toList ++ quoteNameIfNeeded path ++ ": ".toList ++ e.words.toList)
  if w.check.isNone then
    paths.forM fun path => do
      if path ≠ ['-'] then
        if let .error e := ← ask (.look path true) then trouble "cannot read" path e
  let sink : Option Nat ← match w.target with
    | none => pure none
    | some path => do
      match ← ask (.openFile path { writes := true, creates := true } 0o666) with
      | .error e => do
        trouble "open failed" path e
        pure none
      | .ok n => pure (some n)
  let ending := settings.lineSign
  let contents ← paths.mapM fun path => do
    match ← openInput path with
    | .error e => do
      trouble "open failed" path e
      pure []
    | .ok descriptor =>
      match ← Task.readAll descriptor with
      | .ok content => pure ((piecesOf ending content).map (bareOf ending))
      | .error e => do
        trouble "read failed" path e
        pure []
  let le (a b : Octets) : Bool := w.compareLines a b ≠ .gt
  if let some c := w.check then checkOrder w (c = 'C') ending (paths.headD []) (contents.headD [])
  else
    let sorted := if w.merges then contents.foldl (fun a b => List.merge a b le) [] else contents.flatten.mergeSort le
    let kept := if w.unique then dropEqual (fun a b => w.compareLines a b == .eq) sorted else sorted
    match sink with
    | none => kept.forM fun line => print (line ++ [ending])
    | some n => do
      let _ ← ask (.resizeDescriptor n 0)
      let _ ← Task.writeAll n (kept.flatMap (· ++ [ending]))
      let _ ← ask (.close n)
    status

end Work

end Diagnostics.Sandbox
