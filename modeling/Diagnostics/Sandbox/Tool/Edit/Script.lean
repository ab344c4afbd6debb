import Diagnostics.Sandbox.Tool.TextPattern

/-!
# Scripts for editing

A script for editing says, line by line, what is to be done with the lines of a text: each rule has an action, and the
lines that it is for. Rules stand in one row; a block is entered by jumping over it where it does not apply.
-/

namespace Diagnostics.Sandbox

/-- A pattern with the way in which it is matched. -/
structure EditPattern where
  pattern : TextPattern
  style : PatternStyle

/-- Lines that a rule may name. A pattern that is left out is the one that was used last. -/
inductive LineAddress
  | number (n : Nat)
  | step (first step : Nat)
  | last
  | pattern (p : Option EditPattern)

/-- Where a range of lines ends: at a line, after so many, or at a multiple of a number. -/
inductive RangeEnd
  | at (a : LineAddress)
  | plus (n : Nat)
  | multiple (n : Nat)

/-- What follows may change the case of letters. -/
inductive CaseChange
  | none
  | upper
  | lower
  deriving DecidableEq

/-- A piece of what comes instead of a match. -/
inductive ReplacementPiece
  | text (cs : Octets)
  | group (n : Nat)
  | keep (change : CaseChange)
  | once (change : CaseChange)

/-- Where something is written: to the output, to where complaints go, or to a file. -/
inductive EditTarget
  | output
  | complaints
  | file (path : Octets)
  deriving DecidableEq

/-- A substitution: what is replaced by what, from which match on, and what is done afterwards. -/
structure Substitution where
  pattern : Option EditPattern
  replacement : List ReplacementPiece
  isGlobal : Bool := false
  number : Nat := 1
  prints : Bool := false
  evaluates : Bool := false
  target : Option EditTarget := none

/-- When a jump is made. -/
inductive JumpWhen
  | always
  | replaced
  | notReplaced
  deriving DecidableEq

/-- What is done. Blocks and jumps know the place in the row of rules. -/
inductive EditAction
  | block (stop : Nat)
  | nothing
  | insertText (cs : Octets)
  | appendText (cs : Octets)
  | changeText (cs : Octets)
  | jump (condition : JumpWhen) (label : Octets)
  | delete
  | deleteLine
  | evaluate (command : Octets)
  | fileName
  | get
  | getMore
  | hold
  | holdMore
  | exchange
  | list (width : Option Nat)
  | next
  | nextMore
  | print
  | printLine
  | number
  | quit (status : Nat)
  | leave (status : Nat)
  | readFile (path : Octets)
  | readLine (path : Octets)
  | substitute (s : Substitution)
  | translate (pairs : List (Char × Char))
  | write (target : EditTarget)
  | writeLine (target : EditTarget)
  | empty

/-- A rule: the lines that it is for, or those that it is not for, and what is done. -/
structure EditRule where
  start : Option LineAddress := none
  stop : Option RangeEnd := none
  negated : Bool := false
  action : EditAction

/-- A script: its rules, and where its labels stand. -/
structure EditScript where
  rules : Array EditRule := #[]
  labels : List (Octets × Nat) := []
  quiet : Bool := false

namespace EditScript

/-- Everything that the script may write to. -/
def targets (s : EditScript) : List EditTarget :=
  s.rules.toList.filterMap fun r =>
    match r.action with
    | .write t => some t
    | .writeLine t => some t
    | .substitute s => s.target
    | _ => none

/-- A label to which a jump leads, but which is nowhere. -/
def missingLabel? (s : EditScript) : Option Octets :=
  s.rules.toList.findSome? fun r =>
    match r.action with
    | .jump _ label => if label.isEmpty || (s.labels.lookup label).isSome then none else some label
    | _ => none

end EditScript

end Diagnostics.Sandbox
