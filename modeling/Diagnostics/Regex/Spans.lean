import Diagnostics.Regex.CharSet

/-!
# Sets of characters as spans

A set can be written in many ways. Its spans, sorted and kept apart, are the same however it was written, so
two sets are compared by them.
-/

namespace Diagnostics

/-- Inclusive spans of code points. -/
abbrev Spans := List (Nat × Nat)

namespace Spans

/-- The last code point. -/
def lastCode : Nat := 0x10ffff

/-- Join sorted spans that meet; `low` and `high` are the span at hand. -/
def joinFrom (low high : Nat) : Spans → Spans
  | [] => [(low, high)]
  | (a, b) :: rest =>
    if a ≤ high + 1 then joinFrom low (max high b) rest else (low, high) :: joinFrom a b rest

/-- Spans sorted and kept apart. -/
def tidy (s : Spans) : Spans :=
  match (s.filter fun (a, b) => a ≤ b).mergeSort fun p q => p.1 ≤ q.1 with
  | [] => []
  | (a, b) :: rest => joinFrom a b rest

/-- The gaps between tidy spans, from `next` on. -/
def gapsFrom (next : Nat) : Spans → Spans
  | [] => if next ≤ lastCode then [(next, lastCode)] else []
  | (a, b) :: rest => if next < a then (next, a - 1) :: gapsFrom (b + 1) rest else gapsFrom (b + 1) rest

/-- All other characters. -/
def compl (s : Spans) : Spans := gapsFrom 0 s

/-- The characters of either set. -/
def union (s t : Spans) : Spans := tidy (s ++ t)

/-- The characters of both sets. -/
def inter (s t : Spans) : Spans := compl (union (compl s) (compl t))

/-- The code points whose case can change. -/
def cased : List Nat :=
  (Unicode.foldRuns.flatMap fun r =>
    (List.range ((r.last - r.first) / r.step + 1)).flatMap fun i => [r.first + i * r.step, r.image + i * r.step])

/-- A code point lies in one of the spans. -/
def covers (s : Spans) (n : Nat) : Bool := s.any fun (a, b) => a ≤ n && n ≤ b

/-- The set closed under case. -/
def folded (s : Spans) : Spans :=
  let moved := (cased.filter s.covers).flatMap fun n => Unicode.caseVariants (Char.ofNat n)
  union s (moved.map fun c => (c.toNat, c.toNat))

/-- The word characters. -/
def word : Spans :=
  tidy (inter Unicode.alphabetic (compl Unicode.latestLetters) ++ Unicode.decimalDigits ++ Unicode.otherWord)

end Spans

/-- The spans of a set. -/
def CharSet.spans : CharSet → Spans
  | none => []
  | any => [(0, Spans.lastCode)]
  | span first last => Spans.tidy [(first.toNat, last.toNat)]
  | digit => Unicode.decimalDigits
  | space => Unicode.whiteSpace
  | word => Spans.word
  | ranges table => Spans.tidy table
  | union a b => a.spans.union b.spans
  | inter a b => a.spans.inter b.spans
  | diff a b => a.spans.inter b.spans.compl
  | symmDiff a b => (a.spans.inter b.spans.compl).union (b.spans.inter a.spans.compl)
  | compl a => a.spans.compl
  | folded a => a.spans.folded
  | ascii a => a.spans.inter [(0, 127)]

/-- The one member of a set that has just one. -/
def CharSet.onlyMember? (s : CharSet) : Option Char :=
  match s.spans with
  | [(a, b)] => if a = b then some (Char.ofNat a) else .none
  | _ => .none

end Diagnostics
