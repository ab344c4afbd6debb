import Diagnostics.Sandbox.FileTest
import Diagnostics.Sandbox.Shell.State

/-!
# Conditions

Conditions on files, texts and numbers, put together by words for not, and, and or. What a word means depends on
the words around it.
-/

namespace Diagnostics.Sandbox

/-- What a word of a condition means. -/
inductive ConditionWord
  | finish
  | operand
  | one (name : String)
  | two (name : String)
  | bang
  | andWord
  | orWord
  | openParen
  | closeParen
  deriving DecidableEq

namespace ConditionWord

/-- Tests of one operand. -/
def ones : List String :=
  ["-r", "-w", "-x", "-e", "-f", "-d", "-c", "-b", "-p", "-u", "-g", "-k", "-s", "-t", "-z", "-n", "-h", "-O", "-G",
    "-L", "-S"]

/-- Tests of two operands. -/
def twos : List String :=
  ["=", "!=", "<", ">", "-eq", "-ne", "-ge", "-gt", "-le", "-lt", "-nt", "-ot", "-ef"]

/-- What a word would mean alone. -/
def ofText? (cs : Octets) : Option ConditionWord :=
  let s := String.ofList cs
  if ones.contains s then some (.one s)
  else if twos.contains s then some (.two s)
  else
    match s with
    | "!" => some .bang
    | "-a" => some .andWord
    | "-o" => some .orWord
    | "(" => some .openParen
    | ")" => some .closeParen
    | _ => none

/-- The word stands between two operands. -/
def isTwo : ConditionWord → Bool
  | .two _ => true
  | _ => false

/-- The meaning of a word, given those after it. -/
def read (words : List Octets) : ConditionWord :=
  match words with
  | [] => .finish
  | w :: rest =>
    match ofText? w with
    | none => .operand
    | some (.one s) =>
      let isOperand := match rest with
        | [] => true
        | [_] => false
        | next :: _ => (ofText? next).any isTwo
      if isOperand then .operand else .one s
    | some .openParen => if rest.isEmpty then .operand else .openParen
    | some t => t

end ConditionWord

/-- A condition that is being looked at: all words, and the place of the one at hand. -/
structure ConditionState where
  words : List Octets
  place : Nat := 0

/-- Looking at a condition. -/
abbrev ConditionAct := StateT ConditionState Act

namespace ConditionAct

/-- The words from one behind the place at hand on. -/
def after (n : Nat) : ConditionAct (List Octets) := do
  let s ← get
  pure (s.words.drop (s.place + n))

/-- The meaning of the word `n` behind the one at hand. -/
def readAt (n : Nat) : ConditionAct ConditionWord := do pure (ConditionWord.read (← after n))

/-- Go on to a later word. -/
def skip (n : Nat) : ConditionAct Unit := modify fun s => { s with place := s.place + n }

/-- The word at hand. -/
def word : ConditionAct (Option Octets) := do pure (← after 0).head?

/-- A number. -/
def number (cs : Octets) : ConditionAct Int :=
  match wholeNumber? (some 10) cs with
  | some n => pure n
  | none => Act.failWith ("Illegal number: ".toList ++ cs)

/-- What is known of a file. -/
def facts (path : Octets) (follow : Bool) : ConditionAct (Option FileFacts) := do
  match ← Act.ask (.look path follow) with
  | .ok f => pure (some f)
  | .error _ => pure none

/-- A test of a file, by its name. -/
def fileTest (name : String) (path : Octets) : ConditionAct Bool := do
  match (name.toList[1]?).bind FileTest.ofLetter? with
  | some t => pure ((← facts path t.follows).any t.holds)
  | none => pure false

/-- A test of one operand. -/
def one (name : String) (cs : Octets) : ConditionAct Bool := do
  match name with
  | "-z" => pure cs.isEmpty
  | "-n" => pure !cs.isEmpty
  | "-t" => do
    let _ ← number cs
    pure false
  | _ => fileTest name cs

/-- The order of octets, strictly. -/
def octetsLt : Octets → Octets → Bool
  | _, [] => false
  | [], _ :: _ => true
  | a :: as, b :: bs => a < b || (a == b && octetsLt as bs)

/-- A test of two operands. -/
def two (name : String) (a b : Octets) : ConditionAct Bool := do
  let numbers (p : Int → Int → Bool) : ConditionAct Bool := do
    let m ← number a
    let n ← number b
    pure (p m n)
  let files (p : FileFacts → FileFacts → Bool) : ConditionAct Bool := do
    match ← facts a true, ← facts b true with
    | some f, some g => pure (p f g)
    | _, _ => pure false
  match name with
  | "=" => pure (a == b)
  | "!=" => pure (a != b)
  | "<" => pure (octetsLt a b)
  | ">" => pure (octetsLt b a)
  | "-eq" => numbers fun m n => m == n
  | "-ne" => numbers fun m n => m != n
  | "-lt" => numbers fun m n => m < n
  | "-le" => numbers fun m n => m ≤ n
  | "-gt" => numbers fun m n => n < m
  | "-ge" => numbers fun m n => n ≤ m
  | "-nt" => files FileFacts.isNewer
  | "-ot" => files fun f g => g.isNewer f
  | _ => files FileFacts.isSame

mutual

/-- Conditions of which one must hold. -/
def either : Nat → ConditionWord → ConditionAct Bool
  | 0, _ => pure false
  | fuel + 1, t => do
    let a ← both fuel t
    match ← readAt 1 with
    | .orWord => do
      skip 2
      let b ← either fuel (← readAt 0)
      pure (a || b)
    | _ => pure a

/-- Conditions that must all hold. -/
def both : Nat → ConditionWord → ConditionAct Bool
  | 0, _ => pure false
  | fuel + 1, t => do
    let a ← negated fuel t
    match ← readAt 1 with
    | .andWord => do
      skip 2
      let b ← both fuel (← readAt 0)
      pure (a && b)
    | _ => pure a

/-- A condition that may not hold. -/
def negated : Nat → ConditionWord → ConditionAct Bool
  | 0, _ => pure false
  | fuel + 1, t => do
    match t with
    | .bang => do
      let t ← readAt 1
      if t ≠ .finish then skip 1
      pure !(← negated fuel t)
    | t => primary fuel t

/-- A test, or a condition in parentheses. -/
def primary : Nat → ConditionWord → ConditionAct Bool
  | 0, _ => pure false
  | fuel + 1, t => do
    match t with
    | .finish => pure false
    | .openParen => do
      skip 1
      let t ← readAt 0
      if t = .closeParen then pure false
      else
        let result ← either fuel t
        skip 1
        if (← readAt 0) = .closeParen then pure result
        else Act.fail "closing paren expected"
    | .one name => do
      skip 1
      match ← word with
      | some cs => one name cs
      | none => Act.fail (name ++ ": argument expected")
    | _ => do
      let a := (← word).getD []
      match ← readAt 1 with
      | .two name => do
        skip 2
        match ← word with
        | some b => two name a b
        | none => Act.fail (name ++ ": argument expected")
      | _ => pure !a.isEmpty

end

/-- Look at a condition. A word that cannot be reached is refused. -/
def judge (first : Option ConditionWord) : ConditionAct Bool := do
  let words ← after 0
  let t := first.getD (ConditionWord.read words)
  let result ← either (4 * words.length + 8) t
  match ← after 0 with
  | w :: _ :: _ => Act.failWith (if w.isEmpty then "unexpected operator".toList
      else w ++ ": unexpected operator".toList)
  | _ => pure result

/-- Look at the words of a condition: three with a test of two in the middle are that test, and three or four may be
in parentheses, or negated, however often. -/
def start : Nat → Bool → List Octets → Act Bool
  | 0, negated, _ => pure negated
  | _, negated, [] => pure negated
  | fuel + 1, negated, words => do
    let run (first : Option ConditionWord) (words : List Octets) : Act Bool := do
      let (result, _) ← (judge first).run { words }
      pure (result != negated)
    let isTwo := words.length = 3 && (((words[1]?).bind ConditionWord.ofText?).any ConditionWord.isTwo)
    if isTwo then run (some .operand) words
    else if words.length = 3 || words.length = 4 then
      if words.head? = some ['('] && words.getLast? = some [')'] then run none (words.drop 1).dropLast
      else if words.head? = some ['!'] then start fuel true (words.drop 1)
      else run none words
    else run none words

end ConditionAct

/-- Test a condition; in brackets the last word closes them. -/
def testCondition (inBrackets : Bool) (args : List Octets) : Act Nat := do
  if inBrackets && args.getLast? ≠ some [']'] then Act.fail "missing ]"
  else
    let words := if inBrackets then args.dropLast else args
    let holds ← ConditionAct.start (words.length + 2) false words
    pure (if holds then 0 else 1)

end Diagnostics.Sandbox
