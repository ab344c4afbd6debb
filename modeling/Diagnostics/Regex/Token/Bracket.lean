import Diagnostics.Regex.Token.Escape

/-!
# Bracketed classes

The inside of a bracket is read item by item with a list of the brackets that are open around it. The set
operators bind weaker than juxtaposition and group to the left, so an open bracket holds at most one
operator that waits for its right operand.
-/

namespace Diagnostics.Regex

/-- A bracket that is being read: its items so far, last first, and the operator that waits for them. -/
structure OpenBracket where
  negated : Bool
  waiting : Option (SetOperator × ClassItem) := none
  items : List ClassItem := []

namespace OpenBracket

/-- Add an item. -/
def push (b : OpenBracket) (item : ClassItem) : OpenBracket := { b with items := item :: b.items }

/-- What has been read so far, as one item. -/
def value (b : OpenBracket) : ClassItem :=
  let operand := ClassItem.ofList b.items.reverse
  match b.waiting with
  | none => operand
  | some (op, left) => .combined op left operand

/-- An operator takes all that was read before it as its left operand. -/
def operate (b : OpenBracket) (op : SetOperator) : OpenBracket :=
  { b with waiting := some (op, b.value), items := [] }

end OpenBracket

/-- Hyphens at the start of a bracket stand for themselves. -/
def leadingHyphens (verbose : Bool) : Nat → List Char → List ClassItem × List Char
  | n + 1, '-' :: rest =>
    let (items, left) := leadingHyphens verbose n (skipBlanks verbose rest)
    (.char '-' :: items, left)
  | _, cs => ([], cs)

/-- Open a bracket, the `[` already taken: an optional `^`, then hyphens, or a closing bracket in first
place, that stand for themselves. -/
def openBracket (verbose : Bool) (cs : List Char) : Except SyntaxError (OpenBracket × List Char) :=
  match skipBlanks verbose cs with
  | [] => .error .unclosedClass
  | start =>
    let (negated, afterSign) :=
      match start with
      | '^' :: rest => (true, skipBlanks verbose rest)
      | _ => (false, start)
    let (hyphens, left) := leadingHyphens verbose afterSign.length afterSign
    match hyphens, left with
    | _, [] => .error .unclosedClass
    | [], ']' :: rest =>
      match skipBlanks verbose rest with
      | [] => .error .unclosedClass
      | left => .ok ({ negated, items := [.char ']'] }, left)
    | _, _ => .ok ({ negated, items := hyphens.reverse }, left)

/-- The class name at `[:name:]` or `[:^name:]`, both brackets included; anything else is no class name. -/
def posixClass? : List Char → Option (ClassItem × List Char)
  | '[' :: ':' :: rest =>
    let (negated, start) :=
      match rest with
      | '^' :: more => (true, more)
      | _ => (false, rest)
    let name := start.takeWhile (· != ':')
    match start.dropWhile (· != ':') with
    | ':' :: ']' :: left =>
      (PosixClass.ofName? (String.ofList name)).map fun k => (.posix k negated, left)
    | _ => none
  | _ => none

/-- One element of a bracket: an escape or a plain character. -/
def readClassElement (verbose : Bool) : List Char → Except SyntaxError (Escape × List Char)
  | [] => .error .unclosedClass
  | '\\' :: rest => readEscape verbose rest
  | c :: rest => .ok (.char c, rest)

/-- An element that stands for itself or for a class. -/
def Escape.toClassItem : Escape → Except SyntaxError ClassItem
  | .char c => .ok (.char c)
  | .octet c => .ok (.octets c c)
  | .letter k negated => .ok (.letter k negated)
  | .property name negated => .ok (.property name negated)
  | .anchor _ => .error .notAClassItem

/-- An element that is an end of a span. -/
def Escape.toSpanEnd : Escape → Except SyntaxError Char
  | .char c => .ok c
  | .octet c => .ok c
  | _ => .error .notAClassItem

/-- The span between two elements that stand for these characters. -/
def Escape.spanTo (first last : Escape) (low high : Char) : ClassItem :=
  match if low.toNat < 128 then last else first with
  | .octet _ => .octets low high
  | _ => .span low high

/-- An element, or a span of two elements with a hyphen between them. A hyphen before `]` or before
another hyphen makes no span. -/
def readClassItem (verbose : Bool) (cs : List Char) : Except SyntaxError (ClassItem × List Char) := do
  let (first, left) ← readClassElement verbose cs
  match skipBlanks verbose left with
  | [] => .error .unclosedClass
  | '-' :: rest =>
    if peekPastBlanks verbose rest = some ']' ∨ peekPastBlanks verbose rest = some '-' then
      pure (← first.toClassItem, '-' :: rest)
    else
      let (last, left) ← readClassElement verbose (skipBlanks verbose rest)
      let low ← first.toSpanEnd
      let high ← last.toSpanEnd
      if low ≤ high then pure (first.spanTo last low high, left) else .error .spanOutOfOrder
  | left => pure (← first.toClassItem, left)

/-- The set operator at the start of the text. -/
def setOperator? : List Char → Option (SetOperator × List Char)
  | '&' :: '&' :: rest => some (.intersection, rest)
  | '-' :: '-' :: rest => some (.difference, rest)
  | '~' :: '~' :: rest => some (.symmetricDifference, rest)
  | _ => none

/-- What one step inside a bracket reads. -/
inductive BracketStep
  | item (a : ClassItem)
  | operator (op : SetOperator)
  | opening (b : OpenBracket)
  | closing

/-- Read one part of a bracket. -/
def readBracketStep (verbose : Bool) (cs : List Char) : Except SyntaxError (BracketStep × List Char) :=
  match posixClass? cs with
  | some (item, left) => .ok (.item item, left)
  | none =>
    match setOperator? cs with
    | some (op, left) => .ok (.operator op, left)
    | none =>
      match cs with
      | [] => .error .unclosedClass
      | '[' :: rest => do
        let (b, left) ← openBracket verbose rest
        pure (.opening b, left)
      | ']' :: rest => .ok (.closing, rest)
      | _ => do
        let (item, left) ← readClassItem verbose cs
        pure (.item item, left)

/-- Read to the end of the outermost bracket. Each step takes at least one character. -/
def readBracketFrom (verbose : Bool) (current : OpenBracket) (outer : List OpenBracket) (cs : List Char) :
    Except SyntaxError (Bool × ClassItem × List Char) := do
  let start := skipBlanks verbose cs
  let (step, left) ← readBracketStep verbose start
  if left.length < cs.length then
    match step with
    | .item a => readBracketFrom verbose (current.push a) outer left
    | .operator op => readBracketFrom verbose (current.operate op) outer left
    | .opening b => readBracketFrom verbose b (current :: outer) left
    | .closing =>
      match outer with
      | [] => pure (current.negated, current.value, left)
      | parent :: outer =>
        readBracketFrom verbose (parent.push (.bracket current.negated current.value)) outer left
  else .error .unclosedClass
termination_by cs.length

/-- Read a bracketed class, the `[` already taken. -/
def readBracket (verbose : Bool) (cs : List Char) : Except SyntaxError (Ast × List Char) := do
  let (b, left) ← openBracket verbose cs
  let (negated, item, left) ← readBracketFrom verbose b [] left
  pure (.bracket negated item, left)

end Diagnostics.Regex
