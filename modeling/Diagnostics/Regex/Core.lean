import Diagnostics.Regex.Shape

/-!
# Core expressions

What a pattern means: characters from sets, assertions, groups, sequence, ordered choice, and one-or-more
with a preference. Counts have been written out. Both branches of a choice are ordered, so optional and
zero-or-more parts are choices with the empty expression.
-/

namespace Diagnostics

/-- A core expression. `plus greedy r` repeats `r` once or more, more often first if greedy. -/
inductive Regex
  | empty
  | char (s : CharSet)
  | assert (a : Regex.Assertion)
  | group (index : Nat) (r : Regex)
  | cat (a b : Regex)
  | alt (a b : Regex)
  | plus (greedy : Bool) (r : Regex)
  deriving DecidableEq

namespace Regex

/-- Once or not at all, in the order of preference. -/
def optional (greedy : Bool) (r : Regex) : Regex := if greedy then alt r empty else alt empty r

/-- Any number of times. -/
def star (greedy : Bool) (r : Regex) : Regex := optional greedy (plus greedy r)

/-- `r` exactly `n` times, and then `last`. -/
def times (r last : Regex) : Nat → Regex
  | 0 => last
  | n + 1 => cat r (times r last n)

/-- `r` at most `n` times. -/
def atMost (greedy : Bool) (r : Regex) : Nat → Regex
  | 0 => empty
  | 1 => optional greedy r
  | n + 2 => optional greedy (cat r (atMost greedy r (n + 1)))

/-- `r` exactly `n` times. -/
def exactly (r : Regex) : Nat → Regex
  | 0 => empty
  | n + 1 => times r r n

/-- A counted repetition, written out. An expression that is repeated no times at all is dropped. -/
def counted (min : Nat) (max : Option Nat) (greedy : Bool) (r : Regex) : Regex :=
  match min, max with
  | 0, none => star greedy r
  | n + 1, none => times r (plus greedy r) n
  | 0, some m => atMost greedy r m
  | n, some m => if m ≤ n then exactly r n else times r (atMost greedy r (m - n)) n

/-- The expression of a literal. -/
def ofChars : List Char → Regex
  | [] => empty
  | [c] => char (.single c)
  | c :: cs => cat (char (.single c)) (ofChars cs)

/-- The expression of a shape. -/
def Shape.toRegex : Shape → Regex
  | empty => .empty
  | literal cs => .ofChars cs
  | set s => .char s
  | assert a => .assert a
  | group index a => .group index a.toRegex
  | repeated min max greedy a => counted min max greedy a.toRegex
  | cat a b => .cat a.toRegex b.toRegex
  | alt a b => .alt a.toRegex b.toRegex

/-- The meaning of a written pattern. -/
def ofAst (a : Ast) : Regex := a.toShape.toRegex

/-- Read a pattern down to its meaning. -/
def parse (source : String) : Except SyntaxError Regex := (Ast.parse source).map ofAst

end Regex

end Diagnostics
