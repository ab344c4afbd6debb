import Diagnostics.Text.Octets

/-!
# Sums

Arithmetic of whole numbers of 64 bits, which wrap around. A sum may use variables and assign to them; what a
short cut skips is read but not reckoned.
-/

namespace Diagnostics.Sandbox

/-! ## Numbers -/

/-- The value of a digit in a base. -/
def digitIn? (base : Nat) (c : Char) : Option Nat :=
  let n :=
    if c.isDigit then c.toNat - '0'.toNat
    else if 'a' ≤ c && c ≤ 'z' then c.toNat - 'a'.toNat + 10
    else if 'A' ≤ c && c ≤ 'Z' then c.toNat - 'A'.toNat + 10
    else base
  if n < base then some n else none

/-- The digits of a base at the beginning of a text, as a number, and the rest. -/
def takeNumeral (base : Nat) : Nat → Octets → Nat × Octets
  | n, [] => (n, [])
  | n, c :: rest =>
    match digitIn? base c with
    | some d => takeNumeral base (n * base + d) rest
    | none => (n, c :: rest)

/-- A numeral at the beginning of a text, in the base that it shows: `0x` and `0` lead to bases of their own. -/
def takeNumber (cs : Octets) : Option (Nat × Octets) :=
  match cs with
  | '0' :: x :: d :: rest =>
    if (x = 'x' || x = 'X') && (digitIn? 16 d).isSome then some (takeNumeral 16 0 (d :: rest))
    else some (takeNumeral 8 0 cs)
  | '0' :: _ => some (takeNumeral 8 0 cs)
  | c :: _ => if c.isDigit then some (takeNumeral 10 0 cs) else none
  | [] => none

/-- Blanks around numbers. -/
def isNumberBlank (c : Char) : Bool := c == ' ' || ('\x09' ≤ c && c ≤ '\x0d')

/-- The largest and the least number. -/
def greatestNumber : Int := 9223372036854775807
def leastNumber : Int := -9223372036854775808

/-- The number of numbers. -/
def numberCount : Int := 18446744073709551616

/-- A number with a sign at the beginning of a text, after blanks, and the rest; `base` is nothing if the number
shows its base. -/
def takeSigned (base : Option Nat) (cs : Octets) : Option (Int × Octets) :=
  let cs := cs.dropWhile isNumberBlank
  let (negative, cs) := match cs with
    | '-' :: rest => (true, rest)
    | '+' :: rest => (false, rest)
    | cs => (false, cs)
  let found := match base with
    | none => takeNumber cs
    | some base => if (cs.head?.bind (digitIn? base)).isSome then some (takeNumeral base 0 cs) else none
  found.map fun (n, rest) => (if negative then -(n : Int) else n, rest)

/-- The text is a number and nothing but blanks around it. -/
def wholeNumber? (base : Option Nat) (cs : Octets) : Option Int :=
  match takeSigned base cs with
  | some (n, rest) =>
    if rest.all isNumberBlank && leastNumber ≤ n && n ≤ greatestNumber then some n else none
  | none => none

/-- The value of a variable as a number; no digits at all are zero. -/
def variableNumber? (cs : Octets) : Option Int :=
  if cs.all isNumberBlank then some 0 else wholeNumber? none cs

/-! ## Tokens -/

/-- A token of a sum. -/
inductive SumToken
  | number (n : Int64)
  | name (cs : Octets)
  | sign (s : String)
  | bad
  deriving DecidableEq

namespace SumToken

/-- Signs, longer ones first. -/
def signs : List String :=
  ["<<=", ">>=", "<<", ">>", "<=", ">=", "==", "!=", "&&", "||", "+=", "-=", "*=", "/=", "%=", "&=", "^=", "|=",
    "<", ">", "=", "!", "&", "|", "+", "-", "*", "/", "%", "^", "~", "?", ":", "(", ")"]

/-- Part of a name. -/
def isNamePart (c : Char) : Bool := c == '_' || c.isAlphanum

/-- The tokens of a text, up to the first that is none. -/
def ofText : Nat → Octets → List SumToken
  | 0, _ => []
  | _, [] => []
  | fuel + 1, c :: rest =>
    if c = ' ' || c = '\t' || c = '\n' then ofText fuel rest
    else if c.isDigit then
      match takeNumber (c :: rest) with
      | some (n, rest) => .number (Int64.ofInt (min (n : Int) greatestNumber)) :: ofText fuel rest
      | none => [.bad]
    else if isNamePart c then
      .name (c :: rest.takeWhile isNamePart) :: ofText fuel (rest.dropWhile isNamePart)
    else
      match signs.find? fun s => s.toList.isPrefixOf (c :: rest) with
      | some s => .sign s :: ofText fuel ((c :: rest).drop s.length)
      | none => [.bad]

end SumToken

/-! ## Reckoning -/

/-- What can be wrong with a sum: the value of a variable is no number, something is divided by zero, or
something else should stand where it ends or goes on. -/
inductive SumFault
  | illegal (value : Octets)
  | divisionByZero
  | expecting (what : String)

/-- The fault in words; but for a variable's value the sum is shown. -/
def SumFault.message (text : Octets) : SumFault → Octets
  | .illegal value => "Illegal number: ".toList ++ value
  | .divisionByZero => "arithmetic expression: division by zero: \"".toList ++ text ++ ['"']
  | .expecting what => ("arithmetic expression: expecting " ++ what ++ ": \"").toList ++ text ++ ['"']

/-- What is known while a sum is reckoned: what is left of it, and the variables, looked up or assigned. -/
structure SumState where
  tokens : List SumToken
  look : Octets → Except SumFault Int64
  assigned : List (Octets × Int64) := []

/-- Reckoning, which may stop with a complaint. -/
abbrev Reckoning := StateT SumState (Except SumFault)

namespace Reckoning

/-- The next token; none at the end. -/
def peek : Reckoning (Option SumToken) := return (← get).tokens.head?

/-- Go past a token. -/
def advance : Reckoning Unit := modify fun s => { s with tokens := s.tokens.drop 1 }

/-- Go past a sign if it comes next. -/
def meets (sign : String) : Reckoning Bool := do
  if (← peek) = some (.sign sign) then advance; pure true else pure false

/-- The value of a variable. -/
def value (name : Octets) : Reckoning Int64 := do
  let s ← get
  match s.assigned.lookup name with
  | some n => pure n
  | none =>
    match s.look name with
    | .ok n => pure n
    | .error e => throw e

/-- Assign to a variable. -/
def assign (name : Octets) (n : Int64) : Reckoning Unit :=
  modify fun s => { s with assigned := (name, n) :: s.assigned.filter (·.1 ≠ name) }

/-- Truth as a number. -/
def truth (b : Bool) : Int64 := if b then 1 else 0

/-- Apply an operation of two numbers. -/
def apply (sign : String) (a b : Int64) : Reckoning Int64 :=
  match sign with
  | "*" => pure (a * b)
  | "/" => if b = 0 then throw .divisionByZero else pure (a / b)
  | "%" => if b = 0 then throw .divisionByZero else pure (a % b)
  | "+" => pure (a + b)
  | "-" => pure (a - b)
  | "<<" => pure (a <<< b)
  | ">>" => pure (a >>> b)
  | "<" => pure (truth (a < b))
  | "<=" => pure (truth (a ≤ b))
  | ">" => pure (truth (b < a))
  | ">=" => pure (truth (b ≤ a))
  | "==" => pure (truth (a = b))
  | "!=" => pure (truth (a ≠ b))
  | "&" => pure (a &&& b)
  | "^" => pure (a ^^^ b)
  | _ => pure (a ||| b)

/-- The operations of two numbers, those that bind most closely first. -/
def levels : List (List String) :=
  [["*", "/", "%"], ["+", "-"], ["<<", ">>"], ["<", "<=", ">", ">="], ["==", "!="], ["&"], ["^"], ["|"]]

/-- Signs that assign, with the operation they apply. -/
def assignments : List (String × String) :=
  [("*=", "*"), ("/=", "/"), ("%=", "%"), ("+=", "+"), ("-=", "-"), ("<<=", "<<"), (">>=", ">>"), ("&=", "&"),
    ("^=", "^"), ("|=", "|")]

mutual

/-- A number, a variable, something in parentheses, or a sign before one of these. -/
def primary (skips : Bool) : Nat → Reckoning Int64
  | 0 => throw (.expecting "primary")
  | fuel + 1 => do
    match ← peek with
    | some (.number n) => advance; pure n
    | some (.name cs) => do
      advance
      if skips then pure 0 else value cs
    | some (.sign "(") => do
      advance
      let n ← assignment skips fuel
      if ← meets ")" then pure n else throw (.expecting "')'")
    | some (.sign "+") => advance; primary skips fuel
    | some (.sign "-") => do advance; pure (-(← primary skips fuel))
    | some (.sign "!") => do advance; pure (truth ((← primary skips fuel) = 0))
    | some (.sign "~") => do advance; pure (~~~(← primary skips fuel))
    | _ => throw (.expecting "primary")

/-- Operations of the given levels, the last of which bind least closely. -/
def operations (skips : Bool) : Nat → List (List String) → Reckoning Int64
  | 0, _ => throw (.expecting "primary")
  | fuel + 1, [] => primary skips fuel
  | fuel + 1, level :: closer => do
    let a ← operations skips fuel closer
    operationsAfter skips fuel level closer a

/-- The operations of a level that follow a number. -/
def operationsAfter (skips : Bool) : Nat → List String → List (List String) → Int64 → Reckoning Int64
  | 0, _, _, a => pure a
  | fuel + 1, level, closer, a => do
    match ← peek with
    | some (.sign s) =>
      if level.contains s then
        advance
        let b ← operations skips fuel closer
        let a ← if skips then pure b else apply s a b
        operationsAfter skips fuel level closer a
      else pure a
    | _ => pure a

/-- Numbers of which both must be true. -/
def conjunction (skips : Bool) : Nat → Reckoning Int64
  | 0 => throw (.expecting "primary")
  | fuel + 1 => do
    let a ← operations skips fuel levels.reverse
    if ← meets "&&" then
      let b ← conjunction (skips || a = 0) fuel
      pure (truth (a ≠ 0 && b ≠ 0))
    else pure a

/-- Numbers of which one must be true. -/
def disjunction (skips : Bool) : Nat → Reckoning Int64
  | 0 => throw (.expecting "primary")
  | fuel + 1 => do
    let a ← conjunction skips fuel
    if ← meets "||" then
      let b ← disjunction (skips || a ≠ 0) fuel
      pure (truth (a ≠ 0 || b ≠ 0))
    else pure a

/-- One number or another. -/
def conditional (skips : Bool) : Nat → Reckoning Int64
  | 0 => throw (.expecting "primary")
  | fuel + 1 => do
    let a ← disjunction skips fuel
    if ← meets "?" then
      let b ← assignment (skips || a = 0) fuel
      if ← meets ":" then
        let c ← conditional (skips || a ≠ 0) fuel
        pure (if a ≠ 0 then b else c)
      else throw (.expecting "':'")
    else pure a

/-- A number that may be assigned to a variable. -/
def assignment (skips : Bool) : Nat → Reckoning Int64
  | 0 => throw (.expecting "primary")
  | fuel + 1 => do
    match (← get).tokens with
    | .name cs :: .sign s :: rest =>
      if s = "=" || (assignments.lookup s).isSome then
        modify fun st => { st with tokens := rest }
        let b ← assignment skips fuel
        if skips then pure b
        else
          let n ← match assignments.lookup s with
            | some operation => do apply operation (← value cs) b
            | none => pure b
          assign cs n
          pure n
      else conditional skips fuel
    | _ => conditional skips fuel

end

end Reckoning

/-- Reckon a sum: its value and what it assigns. -/
def reckon (look : Octets → Except SumFault Int64) (text : Octets) :
    Except SumFault (Int64 × List (Octets × Int64)) :=
  let act : Reckoning Int64 := do
    let n ← Reckoning.assignment false (16 * (text.length + 2))
    if (← Reckoning.peek).isSome then throw (.expecting "EOF")
    pure n
  match act.run { tokens := SumToken.ofText (text.length + 1) text, look } with
  | .ok (n, s) => .ok (n, s.assigned)
  | .error e => .error e

end Diagnostics.Sandbox
