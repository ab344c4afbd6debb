import Diagnostics.Toml.Number

/-!
# Dates and times

A date has a year of four digits, a month and a day that the month has; a time has hours, minutes and
seconds, which may have decimals. The letter T or one space joins a date and a time, and after both an offset
may stand. Configurations hold no dates, so a text is only judged, not turned into a date.
-/

namespace Diagnostics.Toml

/-- A number of exactly so many digits, and what follows it. -/
def digits? (count : Nat) (cs : List Char) : Option (Nat × List Char) :=
  let ds := cs.take count
  if ds.length = count ∧ ds.all Char.isDigit then some (valueIn 10 ds, cs.drop count) else none

/-- What follows a number of two digits within bounds. -/
def afterPair? (low high : Nat) (cs : List Char) : Option (List Char) := do
  let (n, rest) ← digits? 2 cs
  if low ≤ n ∧ n ≤ high then some rest else none

/-- What follows one given character. -/
def afterChar? (c : Char) : List Char → Option (List Char)
  | d :: rest => if d = c then some rest else none
  | [] => none

/-- The number of days in a month. -/
def daysIn (year month : Nat) : Nat :=
  if month = 2 then
    if year % 4 = 0 ∧ (year % 100 ≠ 0 ∨ year % 400 = 0) then 29 else 28
  else if month = 4 ∨ month = 6 ∨ month = 9 ∨ month = 11 then 30
  else 31

/-- What follows a date. -/
def afterDate? (cs : List Char) : Option (List Char) := do
  let (year, rest) ← digits? 4 cs
  let rest ← afterChar? '-' rest
  let (month, rest) ← digits? 2 rest
  let rest ← afterChar? '-' rest
  let (day, rest) ← digits? 2 rest
  if 1 ≤ month ∧ month ≤ 12 ∧ 1 ≤ day ∧ day ≤ daysIn year month then some rest else none

/-- What follows hours and minutes. -/
def afterMinutes? (cs : List Char) : Option (List Char) := do
  let rest ← afterPair? 0 23 cs
  let rest ← afterChar? ':' rest
  afterPair? 0 59 rest

/-- What follows decimals of a second, which need not be there. -/
def afterFraction? : List Char → Option (List Char)
  | '.' :: rest => if rest.head?.any Char.isDigit then some (rest.dropWhile Char.isDigit) else none
  | cs => some cs

/-- What follows a time. -/
def afterTime? (cs : List Char) : Option (List Char) := do
  let rest ← afterMinutes? cs
  let rest ← afterChar? ':' rest
  afterFraction? (← afterPair? 0 60 rest)

/-- The text is an offset or empty. -/
def isOffset : List Char → Bool
  | [] => true
  | ['Z'] => true
  | ['z'] => true
  | '+' :: rest => afterMinutes? rest == some []
  | '-' :: rest => afterMinutes? rest == some []
  | _ => false

/-- The text is a time with or without an offset. -/
def isTimeOfDate (cs : List Char) : Bool := (afterTime? cs).any isOffset

/-- The text is a date, with or without a time, or a time. -/
def isMoment (cs : List Char) : Bool :=
  match afterDate? cs with
  | some [] => true
  | some ('T' :: rest) => isTimeOfDate rest
  | some ('t' :: rest) => isTimeOfDate rest
  | some _ => false
  | none => afterTime? cs == some []

end Diagnostics.Toml
