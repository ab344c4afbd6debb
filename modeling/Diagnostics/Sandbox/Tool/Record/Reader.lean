import Diagnostics.Sandbox.Tool.Record.Expression

/-!
# Reading programs for records

A program is a row of rules and functions. Statements end with a newline or a semicolon, or where a block ends.
-/

namespace Diagnostics.Sandbox

namespace RecordRead

/-! ## Simple statements -/

/-- What is printed ends here: its target follows, or the end of the statement. -/
def atTarget : RecordRead Bool := do
  match ← peek with
  | .sign ">" => pure true
  | .sign ">>" => pure true
  | .sign "|" => pure true
  | _ => atEnd

/-- Read what is printed, one value after the other. -/
def printedWords (fuel : Nat) : Nat → List RecordExpr → RecordRead (List RecordExpr)
  | 0, _ => unexpected
  | count + 1, seen => do
    let e ← expr true fuel
    if ← takeSign "," then
      skipNewlines
      printedWords fuel count (e :: seen)
    else pure (e :: seen).reverse

/-- Read what is printed; parentheses around all of it mean nothing. -/
def printed (fuel : Nat) : RecordRead (List RecordExpr) := do
  if ← atTarget then pure []
  else
    let saved ← get
    if ← takeSign "(" then
      let es ← list ")" fuel []
      if ← atTarget then pure es
      else
        set saved
        printedWords fuel fuel []
    else printedWords fuel fuel []

/-- Read where printed text goes. -/
def target (fuel : Nat) : RecordRead RecordTarget := do
  if ← takeSign ">" then pure (.file (← expr false fuel) false)
  else if ← takeSign ">>" then pure (.file (← expr false fuel) true)
  else if ← takeSign "|" then pure (.command (← expr false fuel))
  else pure .output

/-- Read a value, if there is one before the end of the statement. -/
def optional (fuel : Nat) : RecordRead (Option RecordExpr) := do
  if ← atEnd then pure none else pure (some (← expr false fuel))

/-- Read a statement without its end. -/
def simple (fuel : Nat) : RecordRead RecordStatement := do
  match ← peek with
  | .key "print" => do
    advance
    let words ← printed fuel
    pure (.print words (← target fuel))
  | .key "printf" => do
    advance
    match ← printed fuel with
    | [] => unexpected
    | words => pure (.format words (← target fuel))
  | .key "delete" => do
    advance
    let table ← needTable
    if ← takeSign "[" then pure (.delete table (some (← list "]" fuel [])))
    else pure (.delete table none)
  | .key "next" => do
    if !(← get).isRule then fault "improper use of next".toList
    advance
    pure .next
  | .key "nextfile" => do
    if !(← get).isRule then fault "improper use of nextfile".toList
    advance
    pure .nextFile
  | .key "exit" => do
    advance
    pure (.exit (← optional fuel))
  | .key "return" => do
    if (← get).given.isNone then fault "return outside function body".toList
    advance
    pure (.give (← optional fuel))
  | .key "break" => do
    if (← get).loops = 0 then fault "break statement outside of loop".toList
    advance
    pure .break
  | .key "continue" => do
    if (← get).loops = 0 then fault "continue statement outside of loop".toList
    advance
    pure .continue
  | _ => do pure (.expr (← expr false fuel))

/-! ## Statements -/

/-- Read a condition in parentheses. -/
def condition (fuel : Nat) : RecordRead RecordExpr := do
  needSign "("
  let e ← expr false fuel
  needSign ")"
  skipNewlines
  pure e

/-- Read a part of a loop's head up to a sign. -/
def headPart (fuel : Nat) (close : String) : RecordRead RecordStatement := do
  if ← takeSign close then pure .nothing
  else
    let s ← simple fuel
    needSign close
    pure s

/-- The head of a loop over the keys of a table follows. -/
def atKeys : RecordRead Bool := do
  let tokens : List RecordToken := ((← get).rest.take 5).map (·.token)
  match tokens with
  | [.sign "(", .name _ _, .key "in", .name _ _, .sign ")"] => pure true
  | _ => pure false

/-- Read a piece of a program that is in a loop. -/
def looping (m : RecordRead α) : RecordRead α := do
  modify fun s => { s with loops := s.loops + 1 }
  let a ← m
  modify fun s => { s with loops := s.loops - 1 }
  pure a

mutual

/-- Read a statement. -/
def statement : Nat → RecordRead RecordStatement
  | 0 => unexpected
  | fuel + 1 => do
    match ← peek with
    | .sign "\x7b" => do
      let b ← block fuel
      skipNewlines
      pure b
    | .sign ";" => do
      advance
      skipNewlines
      pure .nothing
    | .key "if" => do
      advance
      let c ← condition fuel
      let a ← statement fuel
      let saved ← get
      skipEnds
      if (← peek) = .key "else" then
        advance
        skipNewlines
        pure (.choose c a (← statement fuel))
      else
        set saved
        pure (.choose c a .nothing)
    | .key "while" => do
      advance
      let c ← condition fuel
      pure (.repeatWhile c (← looping (statement fuel)))
    | .key "do" => do
      advance
      skipNewlines
      let body ← looping (statement fuel)
      skipEnds
      if (← peek) ≠ .key "while" then unexpected
      advance
      needSign "("
      let c ← expr false fuel
      needSign ")"
      takeEnd
      pure (.repeatUntil body c)
    | .key "for" => do
      advance
      if ← atKeys then
        advance
        match ← peek with
        | .name name _ => do
          let v ← nameOf name (some .plain)
          advance
          advance
          let table ← needTable
          advance
          skipNewlines
          pure (.forKeys v table (← looping (statement fuel)))
        | _ => unexpected
      else
        needSign "("
        let first ← headPart fuel ";"
        skipNewlines
        let c ← if ← takeSign ";" then pure none
          else do
            let e ← expr false fuel
            needSign ";"
            pure (some e)
        skipNewlines
        let step ← headPart fuel ")"
        skipNewlines
        pure (.repeatFor first c step (← looping (statement fuel)))
    | _ => do
      let s ← simple fuel
      takeEnd
      pure s

/-- Read statements between braces. -/
def block : Nat → RecordRead RecordStatement
  | 0 => unexpected
  | fuel + 1 => do
    needSign "\x7b"
    skipEnds
    blockRest fuel []

/-- Read statements up to a brace. -/
def blockRest : Nat → List RecordStatement → RecordRead RecordStatement
  | 0, _ => unexpected
  | fuel + 1, seen => do
    if ← takeSign "\x7d" then pure (.block seen.reverse)
    else
      let s ← statement fuel
      skipNewlines
      blockRest fuel (s :: seen)

end

/-! ## Programs -/

/-- Read names between commas up to a parenthesis. -/
def givenNames : Nat → List Octets → RecordRead (List Octets)
  | 0, _ => unexpected
  | fuel + 1, seen => do
    match ← peek with
    | .name name _ => do
      advance
      if ← takeSign "," then
        skipNewlines
        givenNames fuel (name :: seen)
      else
        needSign ")"
        pure (name :: seen).reverse
    | _ => unexpected

/-- Read a function. -/
def routine (fuel : Nat) : RecordRead RecordRoutine := do
  advance
  match ← peek with
  | .name name _ => do
    let s ← get
    if (s.shared.findIdx? (·.name = name)).isSome || (s.routines.lookup name).isSome then unexpected
    advance
    needSign "("
    let given ← if ← takeSign ")" then pure [] else givenNames fuel []
    skipNewlines
    modify fun s =>
      { s with routines := (name, given.length) :: s.routines, given := some given, isRule := true, loops := 0 }
    let body ← block fuel
    modify fun s => { s with given := none }
    pure { name, size := given.length, body }
  | _ => unexpected

/-- Read the rules and functions of a program. -/
def items : Nat → RecordProgram → RecordRead RecordProgram
  | 0, _ => unexpected
  | fuel + 1, p => do
    skipEnds
    modify fun s => { s with isRule := false, loops := 0 }
    match ← peek with
    | .stop => pure p
    | .key "BEGIN" => do
      advance
      let b ← block fuel
      items fuel { p with first := b :: p.first }
    | .key "END" => do
      advance
      let b ← block fuel
      items fuel { p with last := b :: p.last }
    | .key "function" => do
      let r ← routine fuel
      items fuel { p with routines := r :: p.routines }
    | .sign "\x7b" => do
      modify fun s => { s with isRule := true }
      let body ← block fuel
      items fuel { p with rules := ⟨.always, body⟩ :: p.rules }
    | _ => do
      let first ← expr false fuel
      let condition ← if ← takeSign "," then do
          skipNewlines
          pure (.range first (← expr false fuel))
        else pure (.when first)
      modify fun s => { s with isRule := true }
      let body ← if (← peek) = .sign "\x7b" then block fuel
        else do
          takeEnd
          pure (.print [] .output)
      items fuel { p with rules := ⟨condition, body⟩ :: p.rules }

/-- Look whether the functions that are called are there, and are given no more than they take. -/
def checkCalls : RecordRead Unit := do
  let s ← get
  s.calls.reverse.forM fun (name, count, at_) => do
    match s.routines.lookup name with
    | none => fault ("function ".toList ++ name ++ " never defined".toList)
    | some size =>
      if size < count then throw ⟨some at_, "too many arguments in call to ".toList ++ name⟩

/-- Read a program. -/
def program (fuel : Nat) : RecordRead RecordProgram := do
  let p ← items fuel {}
  checkCalls
  let s ← get
  pure { first := p.first.reverse, rules := p.rules.reverse, last := p.last.reverse, routines := p.routines
         names := s.shared.toList.map (·.name) }

end RecordRead

/-- How much deeper expressions go than they have tokens. -/
def RecordProgram.depthOfToken : Nat := 20

/-- Read a program. -/
def RecordProgram.ofText (cs : Octets) : Except RecordFault RecordProgram := do
  let tokens ← RecordToken.ofText cs
  let shared := (RecordRead.standardNames.map fun name => (⟨name.toList, none⟩ : SharedName)).toArray
  let (p, _) ← (RecordRead.program (depthOfToken * (tokens.length + 2))).run { rest := tokens, shared }
  pure p

end Diagnostics.Sandbox
