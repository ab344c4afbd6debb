import Diagnostics.Sandbox.Tool.TextPattern

/-!
# Programs for records

A program for records says what is done before the first record of a text, for those records that a condition picks
out, and after the last one. Variables have numbers: those that all of the program shares, and those of a function.
-/

namespace Diagnostics.Sandbox

/-! ## Expressions -/

/-- A variable: one that all of the program shares, or one of the function at hand. -/
inductive RecordName
  | shared (n : Nat)
  | own (n : Nat)
  deriving DecidableEq

/-- What is done with two numbers. -/
inductive RecordSum
  | plus
  | minus
  | times
  | over
  | rest
  | power
  deriving DecidableEq

/-- How two values are compared. -/
inductive RecordOrder
  | less
  | atMost
  | equal
  | different
  | atLeast
  | more
  deriving DecidableEq

/-- The functions that every program has. -/
inductive RecordFunction
  | length
  | index
  | substring
  | printed
  | split
  | find
  | replace
  | replaceAll
  | lower
  | upper
  | sine
  | cosine
  | angle
  | exponential
  | logarithm
  | root
  | whole
  | random
  | seed
  | system
  | close
  | flush
  | moment
  deriving DecidableEq

mutual

/-- What may be set. -/
inductive RecordPlace
  | named (name : RecordName)
  | field (number : RecordExpr)
  | element (table : RecordName) (keys : List RecordExpr)

/-- Where a line comes from. -/
inductive LineSource
  | main
  | file (path : RecordExpr)
  | command (text : RecordExpr)

/-- What has a value. A pattern that stands for itself asks whether the record matches it. -/
inductive RecordExpr
  | number (x : Float)
  | text (cs : Octets)
  | pattern (p : TextPattern)
  | place (p : RecordPlace)
  | assign (p : RecordPlace) (e : RecordExpr)
  | change (s : RecordSum) (p : RecordPlace) (e : RecordExpr)
  | step (p : RecordPlace) (before up : Bool)
  | sum (s : RecordSum) (a b : RecordExpr)
  | negative (e : RecordExpr)
  | positive (e : RecordExpr)
  | opposite (e : RecordExpr)
  | joined (a b : RecordExpr)
  | order (o : RecordOrder) (a b : RecordExpr)
  | fits (wanted : Bool) (a b : RecordExpr)
  | both (a b : RecordExpr)
  | either (a b : RecordExpr)
  | choice (condition a b : RecordExpr)
  | hasKey (keys : List RecordExpr) (table : RecordName)
  | call (function : Octets) (args : List RecordExpr)
  | apply (function : RecordFunction) (args : List RecordExpr)
  | getLine (source : LineSource) (target : Option RecordPlace)

end

/-! ## Statements -/

/-- Where printed text goes. -/
inductive RecordTarget
  | output
  | file (path : RecordExpr) (appends : Bool)
  | command (text : RecordExpr)

/-- What is done. -/
inductive RecordStatement
  | nothing
  | expr (e : RecordExpr)
  | print (words : List RecordExpr) (target : RecordTarget)
  | format (words : List RecordExpr) (target : RecordTarget)
  | choose (condition : RecordExpr) (a b : RecordStatement)
  | repeatWhile (condition : RecordExpr) (body : RecordStatement)
  | repeatUntil (body : RecordStatement) (condition : RecordExpr)
  | repeatFor (first : RecordStatement) (condition : Option RecordExpr) (step body : RecordStatement)
  | forKeys (name : RecordName) (table : RecordName) (body : RecordStatement)
  | block (statements : List RecordStatement)
  | next
  | nextFile
  | exit (status : Option RecordExpr)
  | break
  | continue
  | give (value : Option RecordExpr)
  | delete (table : RecordName) (keys : Option (List RecordExpr))

/-- The records that a rule is for. -/
inductive RecordCondition
  | always
  | when (e : RecordExpr)
  | range (first last : RecordExpr)

/-- A rule: the records that it is for, and what is done with them. A rule that does not say what is done prints. -/
structure RecordRule where
  condition : RecordCondition
  body : RecordStatement

/-- A function: what it is called, how many variables it has, and what it does. -/
structure RecordRoutine where
  name : Octets
  size : Nat
  body : RecordStatement

/-- A program. -/
structure RecordProgram where
  first : List RecordStatement := []
  rules : List RecordRule := []
  last : List RecordStatement := []
  routines : List RecordRoutine := []
  names : List Octets := []

end Diagnostics.Sandbox
