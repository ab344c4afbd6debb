import Diagnostics.Sandbox.Shell.Pattern
import Diagnostics.Sandbox.Tool.TextPattern
import Diagnostics.Sandbox.Tool.Basic

/-!
# Computing with words

The tool that computes the value of an expression whose signs and operands are words. A value is a number or a text,
and a text that looks like a number is one where a number is needed. What need not be computed is only read.
-/

namespace Diagnostics.Sandbox

/-- A number or a text. -/
inductive WordValue
  | number (n : Int)
  | text (cs : Octets)

namespace WordValue

/-- The value as a text. -/
def shown : WordValue → Octets
  | .number n => (toString n).toList
  | .text cs => cs

/-- The value as a number, if it looks like one. -/
def number? : WordValue → Option Int
  | .number n => some n
  | .text cs =>
    let (negative, ds) := match cs with
      | '-' :: ds => (true, ds)
      | ds => (false, ds)
    if ds.isEmpty || !ds.all Char.isDigit then none
    else
      let n : Int := ds.foldl (fun n d => 10 * n + (d.toNat - '0'.toNat)) (0 : Nat)
      some (if negative then -n else n)

/-- The value counts as nothing: no text, or zero. -/
def isNull (v : WordValue) : Bool := v.shown.isEmpty || v.number? = some 0

/-- A truth value as a number. -/
def truth (b : Bool) : WordValue := .number (if b then 1 else 0)

/-- Compare values: as numbers if both look like numbers. -/
def compare (name : String) (a b : WordValue) : WordValue :=
  let (less, same) := match a.number?, b.number? with
    | some m, some n => (decide (m < n), decide (m = n))
    | _, _ => (octetsLe a.shown b.shown && a.shown ≠ b.shown, decide (a.shown = b.shown))
  truth <| match name with
    | "<" => less
    | "<=" => less || same
    | "!=" => !same
    | ">=" => !less
    | ">" => !less && !same
    | _ => same

end WordValue

/-- An expression that is being read: the words that are left, and the last one that has been read. -/
structure ExprState where
  rest : List Octets
  last : Octets := []

/-- Reading and computing an expression. -/
abbrev ExprWork := StateT ExprState Work

namespace ExprWork

/-- Stop with a complaint. -/
def stop (text : Octets) : ExprWork α := liftM (Work.fail text : Work α)

/-- The next word, which must be there. -/
def takeWord : ExprWork Octets := do
  let s ← get
  match s.rest with
  | w :: rest => do
    set { s with rest, last := w }
    pure w
  | [] => stop ("syntax error: missing argument after ".toList ++ quoteWord s.last)

/-- Take the next word if it is one of some. -/
def takeOneOf (names : List String) : ExprWork (Option String) := do
  let s ← get
  match s.rest with
  | w :: rest =>
    match names.find? (·.toList == w) with
    | some name => do
      set { s with rest, last := w }
      pure (some name)
    | none => pure none
  | [] => pure none

/-- The numbers of two values. -/
def numbers (a b : WordValue) : ExprWork (Int × Int) := do
  match a.number?, b.number? with
  | some m, some n => pure (m, n)
  | _, _ => stop "non-integer argument".toList

/-- Match a text from its start: what the first group has matched, or how much has been matched. -/
def matched (a b : WordValue) : ExprWork WordValue := do
  match TextPattern.ofText {} b.shown with
  | .error f => stop f.message.toList
  | .ok p =>
    let text := a.shown.toArray
    let hasGroup := p.groupCount ≠ 0
    pure <| match p.matchAtStart {} text with
      | none => if hasGroup then .text [] else .number 0
      | some r =>
        if hasGroup then
          match r.groups.lookup 1 with
          | some (i, j) => .text (text.extract i j).toList
          | none => .text []
        else .number r.place

/-- The place of the first character that is one of some, counted from one. -/
def placeOfAny (signs : Octets) : Nat → Octets → Nat
  | _, [] => 0
  | n, c :: cs => if signs.contains c then n else placeOfAny signs (n + 1) cs

/-- A part of a text, from a place counted from one. -/
def part (a : WordValue) (from? count? : Option Int) : WordValue :=
  match from?, count? with
  | some i, some n =>
    if i ≤ 0 || n ≤ 0 then .text [] else .text ((a.shown.drop (i.toNat - 1)).take n.toNat)
  | _, _ => .text []

/-- Operations between two values, by how closely they bind; the loosest come first. -/
def levels : List (List String) :=
  [["|"], ["&"], ["<", "<=", "=", "==", "!=", ">=", ">"], ["+", "-"], ["*", "/", "%"], [":"]]

/-- Put two values together. -/
def combine (name : String) (a b : WordValue) : ExprWork WordValue := do
  match name with
  | "+" => do
    let (m, n) ← numbers a b
    pure (.number (m + n))
  | "-" => do
    let (m, n) ← numbers a b
    pure (.number (m - n))
  | "*" => do
    let (m, n) ← numbers a b
    pure (.number (m * n))
  | ":" => matched a b
  | "/" => do
    let (m, n) ← numbers a b
    if n = 0 then stop "division by zero".toList else pure (.number (m.tdiv n))
  | "%" => do
    let (m, n) ← numbers a b
    if n = 0 then stop "division by zero".toList else pure (.number (m.tmod n))
  | name => pure (WordValue.compare name a b)

mutual

/-- The value of an expression of a level and of those that bind closer. -/
def level : Nat → List (List String) → Bool → ExprWork WordValue
  | 0, _, _ => pure (.number 0)
  | fuel + 1, [], counts => operand fuel counts
  | fuel + 1, names :: closer, counts => do
    let a ← level fuel closer counts
    more fuel names closer counts a

/-- Go on with operations of a level after a value. -/
def more : Nat → List String → List (List String) → Bool → WordValue → ExprWork WordValue
  | 0, _, _, _, a => pure a
  | fuel + 1, names, closer, counts, a => do
    match ← takeOneOf names with
    | none => pure a
    | some "|" => do
      let b ← level fuel closer (counts && a.isNull)
      let v := if !a.isNull then a else if b.isNull then .number 0 else b
      more fuel names closer counts v
    | some "&" => do
      let b ← level fuel closer (counts && !a.isNull)
      more fuel names closer counts (if a.isNull || b.isNull then .number 0 else a)
    | some name => do
      let b ← level fuel closer counts
      let v ← if counts then combine name a b else pure a
      more fuel names closer counts v

/-- An operand: a word, what a function gives, or an expression in parentheses. -/
def operand : Nat → Bool → ExprWork WordValue
  | 0, _ => pure (.number 0)
  | fuel + 1, counts => do
    match ← takeOneOf ["+", "length", "match", "index", "substr", "(", ")"] with
    | some "+" => return .text (← takeWord)
    | some "length" => return .number (← operand fuel counts).shown.length
    | some "match" => do
      let a ← operand fuel counts
      let b ← operand fuel counts
      if counts then matched a b else pure a
    | some "index" => do
      let a ← operand fuel counts
      let b ← operand fuel counts
      pure (.number (placeOfAny b.shown 1 a.shown))
    | some "substr" => do
      let a ← operand fuel counts
      let i ← operand fuel counts
      let n ← operand fuel counts
      pure (part a i.number? n.number?)
    | some "(" => do
      let v ← level fuel levels counts
      let s ← get
      match s.rest with
      | [] => stop ("syntax error: expecting ')' after ".toList ++ quoteWord s.last)
      | [')'] :: rest => do
        set { s with rest, last := [')'] }
        pure v
      | w :: _ => stop ("syntax error: expecting ')' instead of ".toList ++ quoteWord w)
    | some _ => stop "syntax error: unexpected ')'".toList
    | none => return .text (← takeWord)

end

end ExprWork

/-- Compute the value of an expression. The status tells whether it counts as nothing. -/
def Work.expr (args : List Octets) : Work Nat := do
  let args := match args with
    | ['-', '-'] :: rest => rest
    | args => args
  if args.isEmpty then missingOperand
  else
    let (v, s) ← (ExprWork.level (16 * args.length + 16) ExprWork.levels true).run { rest := args }
    match s.rest with
    | w :: _ => fail ("syntax error: unexpected argument ".toList ++ quoteWord w)
    | [] => do
      printLine v.shown
      pure (if v.isNull then 1 else 0)

end Diagnostics.Sandbox
