/-!
# Sets of code points as sorted ranges

A table lists disjoint ranges in increasing order. Membership stops at the first range that starts
above the code point, so characters near the front of a table are found quickly.

Where every code point is of some kind, a table lists the kinds from the first code point to the last, each with the
number of code points that are of that kind one after the other. The code points of a kind are read off it as ranges.
-/

namespace Diagnostics.Unicode

/-- Inclusive ranges of code points, disjoint and in increasing order. -/
abbrev Ranges := List (Nat × Nat)

/-- A code point belongs to the table if one of the ranges covers it. -/
def Ranges.contains : Ranges → Nat → Bool
  | [], _ => false
  | (lo, hi) :: rest, n => if n < lo then false else if n ≤ hi then true else Ranges.contains rest n

/-- Kinds of code points from the first on, each with the length of the run that is of that kind. -/
abbrev Runs := List (String × Nat)

namespace Runs

/-- Read runs, each the letters of a kind and then the digits of a length. The kind at hand is read last letter first,
and its length is 0 until a digit of it is read. -/
def readFrom (kind : List Char) (length : Nat) : List Char → Runs
  | [] => [(String.ofList kind.reverse, length)]
  | c :: cs =>
    if c.isDigit then readFrom kind (length * 10 + (c.toNat - '0'.toNat)) cs
    else if length = 0 then readFrom (c :: kind) 0 cs
    else (String.ofList kind.reverse, length) :: readFrom [c] 0 cs

/-- The runs that are written on the lines of a table. -/
def ofTable (table : List String) : Runs := readFrom [] 0 (table.flatMap String.toList)

/-- The ranges of the runs from `start` on whose kind satisfies `p`. -/
def rangesFrom (start : Nat) (p : String → Bool) : Runs → Ranges
  | [] => []
  | (kind, length) :: rest =>
    let ranges := rangesFrom (start + length) p rest
    if p kind then (start, start + length - 1) :: ranges else ranges

/-- The code points whose kind satisfies `p`. -/
def ranges (runs : Runs) (p : String → Bool) : Ranges := rangesFrom 0 p runs

end Runs

end Diagnostics.Unicode
