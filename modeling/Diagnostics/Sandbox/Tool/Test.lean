import Diagnostics.Sandbox.FileTest
import Diagnostics.Sandbox.Tool.Basic

/-!
# Testing a condition

The tool whose status tells whether a condition holds, which its words state. With up to four words their number says
what they mean; more of them are read as tests between words for and, or, and not.
-/

namespace Diagnostics.Sandbox

/-- A test that is being read: all words, and the place of the one at hand. -/
structure TestState where
  words : Array Octets
  place : Nat := 0

/-- Reading a test. -/
abbrev TestWork := StateT TestState Work

namespace TestWork

/-- Stop with a complaint. -/
def stop (text : Octets) : TestWork α := liftM (Work.fail text : Work α)

/-- There are not enough words. -/
def beyond : TestWork α := do
  let s ← get
  stop ("missing argument after ".toList ++ quoteWord (s.words.back?.getD []))

/-- Go on, with at least one more word if that is demanded. -/
def advance (demand : Bool) : TestWork Unit := do
  modify fun s => { s with place := s.place + 1 }
  let s ← get
  if demand && s.words.size ≤ s.place then beyond

/-- The word so far behind the one at hand. -/
def word? (n : Nat) : TestWork (Option Octets) := do
  let s ← get
  pure s.words[s.place + n]?

/-- The word so far behind the one at hand, if it is there. -/
def word (n : Nat) : TestWork Octets := return (← word? n).getD []

/-- The number of words from the one at hand on. -/
def left : TestWork Nat := do
  let s ← get
  pure (s.words.size - s.place)

/-- Tests of two operands. -/
def twos : List String :=
  ["=", "==", "!=", "-eq", "-ne", "-lt", "-le", "-gt", "-ge", "-nt", "-ot", "-ef"]

/-- A word that tests two operands. -/
def isTwo (cs : Octets) : Bool := twos.contains (String.ofList cs)

/-- A whole number, with blanks around it. -/
def number (cs : Octets) : TestWork Int :=
  let isBlank (c : Char) : Bool := c == ' ' || c == '\t'
  let inner := ((cs.dropWhile isBlank).reverse.dropWhile isBlank).reverse
  let (negative, digits) := match inner with
    | '-' :: ds => (true, ds)
    | '+' :: ds => (false, ds)
    | ds => (false, ds)
  if digits.isEmpty || !digits.all Char.isDigit then stop ("invalid integer ".toList ++ quoteWord cs)
  else
    let n : Int := digits.foldl (fun n d => 10 * n + (d.toNat - '0'.toNat : Nat)) (0 : Nat)
    pure (if negative then -n else n)

/-- What is known of a file. -/
def facts (path : Octets) (follow : Bool) : TestWork (Option FileFacts) := do
  match ← (liftM (Work.ask (.look path follow)) : TestWork (Except OsError FileFacts)) with
  | .ok f => pure (some f)
  | .error _ => pure none

/-- A word is not empty. -/
def oneWord : TestWork Bool := do
  let w ← word 0
  advance false
  pure !w.isEmpty

/-- A test of one operand. -/
def one : TestWork Bool := do
  let w ← word 0
  let letter := (w[1]?).getD ' '
  let operand : TestWork Octets := do
    advance true
    let w ← word 0
    advance false
    pure w
  match letter, FileTest.ofLetter? letter with
  | 'n', _ => return !(← operand).isEmpty
  | 'z', _ => return (← operand).isEmpty
  | 't', _ => do
    let _ ← number (← operand)
    pure false
  | 'N', _ => do
    let _ ← operand
    pure false
  | _, some t => do
    let path ← operand
    pure ((← facts path t.follows).any t.holds)
  | _, none => stop (quoteWord w ++ ": unary operator expected".toList)

/-- A test of two operands; before each of them the length of a word may be asked for. -/
def two (leftLength : Bool) : TestWork Bool := do
  if leftLength then advance false
  let name := String.ofList (← word 1)
  let rightLength := decide (3 < (← left)) && (← word 2) == "-l".toList
  let a ← word 0
  let b ← word (if rightLength then 3 else 2)
  let past : TestWork Unit := modify fun s => { s with place := s.place + (if rightLength then 4 else 3) }
  let numbers (p : Int → Int → Bool) : TestWork Bool := do
    let m ← if leftLength then pure (a.length : Int) else number a
    let n ← if rightLength then pure (b.length : Int) else number b
    past
    pure (p m n)
  let files (p : Option FileFacts → Option FileFacts → Bool) : TestWork Bool := do
    past
    if leftLength || rightLength then stop (name.toList ++ " does not accept -l".toList)
    else pure (p (← facts a true) (← facts b true))
  let isNewer (f g : Option FileFacts) : Bool := match f, g with
    | some f, some g => f.isNewer g
    | some _, none => true
    | none, _ => false
  match name with
  | "-eq" => numbers fun m n => m == n
  | "-ne" => numbers fun m n => m != n
  | "-lt" => numbers fun m n => m < n
  | "-le" => numbers fun m n => m ≤ n
  | "-gt" => numbers fun m n => n < m
  | "-ge" => numbers fun m n => n ≤ m
  | "-nt" => files isNewer
  | "-ot" => files fun f g => isNewer g f
  | "-ef" => files fun f g => match f, g with
    | some f, some g => f.isSame g
    | _, _ => false
  | "!=" => do
    past
    pure (a != b)
  | _ => do
    past
    pure (a == b)

/-- A test of two words. -/
def twoWords : TestWork Bool := do
  let w ← word 0
  match w with
  | ['!'] => do
    advance false
    return !(← oneWord)
  | ['-', _] => one
  | _ => beyond

mutual

/-- The test of the next so many words. -/
def counted : Nat → Nat → TestWork Bool
  | 0, _ => pure false
  | fuel + 1, n => do
    match n with
    | 1 => oneWord
    | 2 => twoWords
    | 3 => threeWords fuel
    | 4 => do
      let w ← word 0
      if w = ['!'] then
        advance true
        return !(← threeWords fuel)
      else if w = ['('] && (← word 3) = [')'] then
        advance false
        let result ← twoWords
        advance false
        pure result
      else either fuel
    | _ => either fuel

/-- A test of three words. -/
def threeWords : Nat → TestWork Bool
  | 0 => pure false
  | fuel + 1 => do
    let middle ← word 1
    if isTwo middle then two false
    else if (← word 0) = ['!'] then
      advance true
      return !(← twoWords)
    else if (← word 0) = ['('] && (← word 2) = [')'] then
      advance false
      let result ← oneWord
      advance false
      pure result
    else if middle = "-a".toList || middle = "-o".toList then either fuel
    else stop (quoteWord middle ++ ": binary operator expected".toList)

/-- Tests of which one must hold. -/
def either : Nat → TestWork Bool
  | 0 => pure false
  | fuel + 1 => do
    let a ← both fuel
    if (← word? 0) = some "-o".toList then
      advance false
      let b ← either fuel
      pure (a || b)
    else pure a

/-- Tests that must all hold. -/
def both : Nat → TestWork Bool
  | 0 => pure false
  | fuel + 1 => do
    let a ← term fuel false
    if (← word? 0) = some "-a".toList then
      advance false
      let b ← both fuel
      pure (a && b)
    else pure a

/-- A test, or one in parentheses, which may be negated. -/
def term : Nat → Bool → TestWork Bool
  | 0, _ => pure false
  | fuel + 1, negated => do
    let w ← word 0
    if (← left) = 0 then beyond
    else if w = ['!'] then
      advance true
      term fuel !negated
    else
      let result : Bool ← if w = ['('] then do
          advance true
          let rest ← left
          let close ← ((List.range (min 5 rest)).drop 1).findM? fun k => return (← word k) = [')']
          let n := close.getD rest
          let result ← counted fuel n
          match ← word? 0 with
          | none => stop (quoteWord [')'] ++ " expected".toList)
          | some [')'] => do
            advance false
            pure result
          | some w => stop (quoteWord [')'] ++ " expected, found ".toList ++ quoteWord w)
        else if 4 ≤ (← left) && w == "-l".toList && isTwo (← word 2) then two true
        else if 3 ≤ (← left) && isTwo (← word 1) then two false
        else match w with
          | ['-', _] => one
          | w => do
            advance false
            pure !w.isEmpty
      pure (result != negated)

end

/-- The test that all words state. -/
def whole : TestWork Bool := do
  let n ← left
  if n = 0 then pure false
  else
    let result ← counted (4 * n + 8) n
    match ← word? 0 with
    | some w => stop ("extra argument ".toList ++ quoteWord w)
    | none => pure result

end TestWork

namespace Work

/-- Test a condition. -/
def test (args : List Octets) : Work Nat := do
  let (holds, _) ← TestWork.whole.run { words := args.toArray }
  pure (if holds then 0 else 1)

/-- Test a condition that ends with a bracket. -/
def bracketTest (args : List Octets) : Work Nat := do
  if args.getLast? = some [']'] then test args.dropLast
  else fail ("missing ".toList ++ quoteWord [']'])

end Work

end Diagnostics.Sandbox
