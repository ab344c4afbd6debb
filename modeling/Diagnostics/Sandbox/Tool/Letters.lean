import Diagnostics.Sandbox.Format
import Diagnostics.Sandbox.Shell.Pattern
import Diagnostics.Sandbox.Tool.Basic

/-!
# Replacing characters

The tool that replaces characters by others, removes them, or leaves only one of several in a row. Sets of characters
are written with ranges, classes, repetitions and escapes.
-/

namespace Diagnostics.Sandbox

/-- A member of a set as it is written: a character, a range, all characters of a class, a character that is repeated
so often, or as often as it takes. -/
inductive LetterItem
  | one (c : Char)
  | range (first last : Char)
  | members (name : String) (p : Char → Bool)
  | repeated (c : Char) (count : Nat)

namespace LetterItem

/-- A character that may be written as an escape, and what follows. The flag tells that it was an escape. -/
def takeChar (cs : Octets) : Option (Char × Bool × Octets) :=
  match cs with
  | [] => none
  | '\\' :: c :: rest =>
    if isOctal c then
      let (d, rest) := takeOctet 8 3 (c :: rest)
      some (d, true, rest)
    else if c = 'e' then some ('e', true, rest)
    else some ((letterEscape? c).getD c, true, rest)
  | c :: rest => some (c, false, rest)

/-- A repetition: the character, and how often. -/
def repetition? (cs : Octets) : Option (LetterItem × Octets) := do
  let (c, _, rest) ← takeChar cs
  match rest with
  | '*' :: rest =>
    let digits := rest.takeWhile Char.isDigit
    match rest.drop digits.length with
    | ']' :: rest =>
      let base := if digits.head? = some '0' then 8 else 10
      some (.repeated c (takeNumeral base 0 digits).1, rest)
    | _ => none
  | _ => none

/-- A class or an equivalence between brackets: what stands between its signs. -/
def named? (sign : Char) (cs : Octets) : Option (Octets × Octets) :=
  let rec go (seen : Octets) : Octets → Option (Octets × Octets)
    | a :: b :: rest => if a = sign && b = ']' then some (seen.reverse, rest) else go (a :: seen) (b :: rest)
    | _ => none
  go [] cs

/-- Read the members of a set; a text is what is wrong with it. -/
def readAll : Nat → Octets → List LetterItem → Except Octets (List LetterItem)
  | 0, _, seen => .ok seen.reverse
  | _, [], seen => .ok seen.reverse
  | fuel + 1, cs, seen => do
    let plain : Except Octets (List LetterItem) :=
      match takeChar cs with
      | none => .ok seen.reverse
      | some (c, _, '-' :: rest) =>
        match takeChar rest with
        | some (d, _, rest) =>
          if d < c then .error ("range-endpoints of '".toList ++ [c, '-', d] ++
            "' are in reverse collating sequence order".toList)
          else readAll fuel rest (.range c d :: seen)
        | none => readAll fuel ['-'] (.one c :: seen)
      | some (c, _, rest) => readAll fuel rest (.one c :: seen)
    match cs with
    | '[' :: ':' :: rest =>
      match named? ':' rest with
      | some (name, rest) =>
        match characterClasses.find? fun (n, _) => n.toList = name with
        | some (n, p) => readAll fuel rest (.members n p :: seen)
        | none => .error ("invalid character class ".toList ++ quoteWord name)
      | none => plain
    | '[' :: '=' :: rest =>
      match named? '=' rest with
      | some ([c], rest) => readAll fuel rest (.one c :: seen)
      | some (name, _) =>
        if name.isEmpty then .error "missing equivalence class character '[==]'".toList
        else .error (name ++ ": equivalence class operand must be a single character".toList)
      | none => plain
    | '[' :: rest =>
      match repetition? rest with
      | some (item, rest) => readAll fuel rest (item :: seen)
      | none => plain
    | _ => plain

/-- The characters of a class in their order. -/
def octetsWhere (p : Char → Bool) : Octets := ((List.range 256).map Char.ofNat).filter p

/-- The characters of a member; one that is repeated as often as it takes is given so often. -/
def expand (fill : Nat) : LetterItem → Octets
  | .one c => [c]
  | .range a b => ((List.range (b.toNat + 1)).drop a.toNat).map Char.ofNat
  | .members _ p => octetsWhere p
  | .repeated c n => List.replicate (if n = 0 then fill else n) c

/-- The characters of a set that is to be as long as another one. -/
def expandAll (length : Nat) (items : List LetterItem) : Octets :=
  let known := (items.flatMap (expand 0)).length
  items.flatMap (expand (length - known))

/-- Both are the classes of letters of one case. -/
def isCase : LetterItem → Bool
  | .members n _ => n == "upper" || n == "lower"
  | _ => false

end LetterItem

namespace Work

/-- Read a set. -/
def letterSet (cs : Octets) : Work (List LetterItem) :=
  match LetterItem.readAll (cs.length + 1) cs [] with
  | .ok items => pure items
  | .error text => fail text

/-- Leave one of several equal characters in a row. -/
def squeezed (p : Char → Bool) (last : Option Char) (cs : Octets) : Octets × Option Char :=
  let (out, last) := cs.foldl (fun (out, last) c =>
    if p c && last = some c then (out, last) else (c :: out, some c)) (([] : Octets), last)
  (out.reverse, last)

/-- Change all that is read. -/
def filterInput (change : Option Char → Octets → Octets × Option Char) : Nat → Option Char → Work Unit
  | 0, _ => pure ()
  | fuel + 1, last => do
    match ← ask (.read 0 Task.readChunk) with
    | .ok [] => pure ()
    | .ok cs => do
      let (out, last) := change last cs
      print out
      filterInput change fuel last
    | .error e => fail ("read error: ".toList ++ e.words.toList)

/-- Which character each one becomes. -/
def translation (complement truncate : Bool) (first second : List LetterItem) : Char → Char :=
  let a := LetterItem.expandAll 0 first
  let a := if complement then LetterItem.octetsWhere (!a.contains ·) else a
  let pairs : List (Char × Char) :=
    if first.length = second.length && first.any LetterItem.isCase && second.any LetterItem.isCase && !complement then
      (first.zip second).flatMap fun (x, y) =>
        match x, y with
        | .members n p, .members m q =>
          if n = m then (LetterItem.octetsWhere p).map fun c => (c, c)
          else (LetterItem.octetsWhere p).zip (LetterItem.octetsWhere q)
        | x, y =>
          let xs := x.expand 0
          let ys := y.expand xs.length
          (xs.zipIdx).map fun (c, i) => (c, ys.getD i (ys.getLast?.getD c))
    else
      let b := LetterItem.expandAll a.length second
      let a := if truncate then a.take b.length else a
      (a.zipIdx).map fun (c, i) => (c, b.getD i (b.getLast?.getD c))
  let table : Array Char := pairs.foldl (fun t (c, d) => t.set! c.toNat d) ((Array.range 256).map Char.ofNat)
  fun c => table.getD c.toNat c

/-- Replace or remove characters. -/
def tr (args : List Octets) : Work Nat := do
  let (settings, sets) ← readLeadingOptions
    [⟨some 'c', "complement", .nothing⟩, ⟨some 'C', "C", .nothing⟩, ⟨some 'd', "delete", .nothing⟩,
      ⟨some 's', "squeeze-repeats", .nothing⟩, ⟨some 't', "truncate-set1", .nothing⟩] args
  let complement := settings.has "complement" || settings.has "C"
  let deletes := settings.has "delete"
  let squeezes := settings.has "squeeze-repeats"
  let translates := sets.length = 2 && !deletes
  let least := if deletes = squeezes then 2 else 1
  let most := if deletes && !squeezes then 1 else 2
  match sets with
  | [] => missingOperand
  | [only] =>
    if least = 2 then
      complain ("missing operand after ".toList ++ quoteWord only)
      mutter ((if squeezes then "Two strings must be given when both deleting and squeezing repeats.\n"
        else "Two strings must be given when translating.\n").toList)
      pointToHelp
  | _ => pure ()
  match sets.drop most with
  | extra :: _ => do
    complain ("extra operand ".toList ++ quoteWord extra)
    if sets.length = 2 then mutter "Only one string may be given when deleting without squeezing repeats.\n".toList
    pointToHelp
  | [] => pure ()
  let first ← letterSet (sets.headD [])
  let second ← letterSet (sets.getD 1 [])
  let a := LetterItem.expandAll 0 first
  let inFirst : Array Bool := (Array.range 256).map fun n => a.contains (Char.ofNat n) != complement
  let isFirst (c : Char) : Bool := inFirst.getD c.toNat false
  if translates && (LetterItem.expandAll 1 second).isEmpty && !settings.has "truncate-set1" then
    fail "when not truncating set1, string2 must be non-empty".toList
  if translates && second.any (fun i => match i with
      | .members n _ => n != "upper" && n != "lower"
      | _ => false) then
    fail ("when translating, the only character classes that may appear in\n" ++
      "string2 are 'upper' and 'lower'").toList
  let become := translation complement (settings.has "truncate-set1") first second
  let b := LetterItem.expandAll a.length second
  let change (last : Option Char) (cs : Octets) : Octets × Option Char :=
    if deletes then
      let kept := cs.filter (!isFirst ·)
      if squeezes then squeezed (b.contains ·) last kept else (kept, last)
    else if translates then
      let changed := cs.map become
      if squeezes then squeezed (b.contains ·) last changed else (changed, last)
    else squeezed isFirst last cs
  filterInput change Task.moveLimit none
  status

end Work

end Diagnostics.Sandbox
