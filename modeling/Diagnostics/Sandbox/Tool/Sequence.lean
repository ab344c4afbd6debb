import Diagnostics.Sandbox.Tool.Print

/-!
# Sequences of numbers

The tool that prints numbers from a first one to a last one.
-/

namespace Diagnostics.Sandbox

/-- A number with so many decimal places: the number times ten to that power. -/
structure Placed where
  value : Int
  places : Nat

/-- Read a number. -/
def Placed.ofText? (cs : Octets) : Option Placed := do
  let cs := cs.dropWhile isNumberBlank
  let (negative, digits) := match cs with
    | '-' :: rest => (true, rest)
    | '+' :: rest => (false, rest)
    | rest => (false, rest)
  let (n, places, rest) ← takePointed 10 digits
  let (e, rest) := takeExponent 'e' rest
  if !rest.isEmpty then none
  else
    let left : Int := places - e
    let value : Int := if left < 0 then n * Nat.pow 10 (-left).toNat else n
    some { value := if negative then -value else value, places := left.toNat }

/-- The number to more places. -/
def Placed.scale (p : Placed) (places : Nat) : Int := p.value * Nat.pow 10 (places - p.places)

/-- A number to so many places as it is written. -/
def writePlaced (value : Int) (places : Nat) : Octets :=
  (if value < 0 then ['-'] else []) ++ pointed false value.natAbs places

namespace Work

/-- Split the arguments where the numbers begin. -/
def splitNumbers : List Octets → List Octets × List Octets
  | [] => ([], [])
  | arg :: rest =>
    match arg with
    | ['-', '-'] => ([arg], rest)
    | '-' :: c :: _ =>
      if c.isDigit || c = '.' then ([], arg :: rest)
      else
        let takesWord := arg = ['-', 's'] || arg = ['-', 'f'] || arg = "--separator".toList || arg = "--format".toList
        match takesWord, rest with
        | true, value :: rest =>
          let (options, numbers) := splitNumbers rest
          (arg :: value :: options, numbers)
        | _, rest =>
          let (options, numbers) := splitNumbers rest
          (arg :: options, numbers)
    | _ => ([], arg :: rest)

/-- Print numbers with a sign between them. -/
def printNumbers (write : Int → Octets) (sign : Octets) (step : Int) (last : Option Int) :
    Nat → Bool → Int → Work Bool
  | 0, isFirst, _ => pure isFirst
  | fuel + 1, isFirst, n => do
    if last.any fun l => if step < 0 then n < l else l < n then pure isFirst
    else
      print ((if isFirst then [] else sign) ++ write n)
      if (← get).outputError.isSome then pure false
      else printNumbers write sign step last fuel false (n + step)

/-- The slot in a format. -/
def formatSlot (format : Octets) : Work (Octets × Slot × Octets) := do
  let rec go (seen : Octets) : Octets → Option (Octets × Octets)
    | [] => none
    | '%' :: '%' :: rest => go ('%' :: seen) rest
    | '%' :: rest => some (seen.reverse, rest)
    | c :: rest => go (c :: seen) rest
  match go [] format with
  | none => fail ("format ".toList ++ quoteWord format ++ " has no % directive".toList)
  | some (before, rest) =>
    let (d, left) := ({ letter := 'g' } : Slot).flags rest
    let width := left.takeWhile Char.isDigit
    let left := left.drop width.length
    let (precision, left) := match left with
      | '.' :: more =>
        let ds := more.takeWhile Char.isDigit
        (some (takeNumeral 10 0 ds).1, more.drop ds.length)
      | more => (none, more)
    match left with
    | c :: after =>
      if "aefgAEFG".toList.contains c then
        pure (before, { d with width := (takeNumeral 10 0 width).1, precision, letter := c }, after)
      else fail ("format ".toList ++ quoteWord format ++ " has unknown %".toList ++ [c] ++ " directive".toList)
    | [] => fail ("format ".toList ++ quoteWord format ++ " ends in %".toList)

/-- Print numbers. -/
def seq (args : List Octets) : Work Nat := do
  let (options, numbers) := splitNumbers args
  let (settings, more) ← readLeadingOptions
    [⟨some 'f', "format", .word⟩, ⟨some 's', "separator", .word⟩, ⟨some 'w', "equal-width", .nothing⟩] options
  let numbers := more ++ numbers
  match numbers.drop 3 with
  | extra :: _ => extraOperand extra
  | [] => pure ()
  if numbers.isEmpty then missingOperand
  let read (cs : Octets) : Work Placed :=
    match Placed.ofText? cs with
    | some p => pure p
    | none => misuse ("invalid floating point argument: ".toList ++ quoteWord cs)
  let isEndless (cs : Octets) : Bool := ["inf", "infinity", "+inf"].any fun w => w.toList = cs.map Char.toLower
  let first ← match numbers with
    | [_] => pure ⟨1, 0⟩
    | a :: _ => read a
    | [] => pure ⟨1, 0⟩
  let step ← match numbers with
    | [_, s, _] => read s
    | _ => pure ⟨1, 0⟩
  if step.value = 0 then
    misuse ("invalid Zero increment value: ".toList ++ quoteWord (numbers.getD 1 []))
  let lastText := numbers.getLast?.getD []
  let last ← if isEndless lastText then pure none else some <$> read lastText
  let places := max first.places step.places
  let scale := max places ((last.map (·.places)).getD 0)
  let sign := (settings.last? "separator").getD ['\n']
  let shrink (n : Int) : Int := n / Nat.pow 10 (scale - places)
  let width :=
    let lengthOf (p : Placed) : Nat :=
      let whole := writePlaced (p.scale scale / Nat.pow 10 (scale - places)) places
      whole.length
    if settings.has "equal-width" then max (lengthOf first) ((last.map lengthOf).getD 0) else 0
  let write ← match settings.last? "format" with
    | some format => do
      let (before, slot, after) ← formatSlot format
      pure fun (n : Int) => before ++ slot.real .extended (.fraction (n < 0) n.natAbs (Nat.pow 10 scale)) ++ after
    | none => pure fun (n : Int) =>
      let text := writePlaced (shrink n) places
      if text.length < width then
        match text with
        | '-' :: ds => '-' :: List.replicate (width - text.length) '0' ++ ds
        | ds => List.replicate (width - text.length) '0' ++ ds
      else text
  let nothing ← printNumbers write sign (step.scale scale) (last.map (·.scale scale)) Task.moveLimit true
    (first.scale scale)
  unless nothing do print ['\n']
  status

end Work

end Diagnostics.Sandbox
