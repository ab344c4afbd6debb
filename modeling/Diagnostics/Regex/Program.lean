import Diagnostics.Regex.Core

/-!
# Programs

An expression laid out as numbered instructions. The instructions of an expression fill a block of fixed
size; control enters at the first and leaves to an address that the surroundings choose. So a block can
be laid out without looking at what comes before or after it, and a law about a block needs to know only
that the block stands somewhere in the program.
-/

namespace Diagnostics.Regex

/-- An instruction. Addresses are positions in the program. -/
inductive Inst
  | accept
  | jump (next : Nat)
  | char (s : CharSet) (next : Nat)
  | assert (a : Assertion) (next : Nat)
  | save (slot : Nat) (next : Nat)
  | fork (first second : Nat)
  deriving DecidableEq

/-- The number of instructions of an expression. -/
def size : Regex → Nat
  | empty => 1
  | char _ => 1
  | assert _ => 1
  | group _ r => r.size + 2
  | cat a b => a.size + b.size
  | alt a b => a.size + b.size + 1
  | plus _ r => r.size + 1

/-- The slot for the start of a group. -/
def startSlot (index : Nat) : Nat := 2 * index

/-- The slot for the end of a group. -/
def stopSlot (index : Nat) : Nat := 2 * index + 1

/-- The instructions of an expression, to stand at `base` and to leave to `next`. -/
def layout : Regex → Nat → Nat → List Inst
  | empty, _, next => [.jump next]
  | char s, _, next => [.char s next]
  | assert a, _, next => [.assert a next]
  | group i r, base, next =>
    .save (startSlot i) (base + 1) :: r.layout (base + 1) (base + 1 + r.size) ++ [.save (stopSlot i) next]
  | cat a b, base, next => a.layout base (base + a.size) ++ b.layout (base + a.size) next
  | alt a b, base, next =>
    .fork (base + 1) (base + 1 + a.size) :: (a.layout (base + 1) next ++ b.layout (base + 1 + a.size) next)
  | plus greedy r, base, next =>
    r.layout base (base + r.size) ++ [if greedy then .fork base next else .fork next base]

theorem length_layout (r : Regex) (base next : Nat) : (r.layout base next).length = r.size := by
  induction r generalizing base next with
  | empty => rfl
  | char => rfl
  | assert => rfl
  | group i r ih => simp [layout, size, ih]
  | cat a b iha ihb => simp [layout, size, iha, ihb]
  | alt a b iha ihb => simp [layout, size, iha, ihb]
  | plus g r ih => simp [layout, size, ih]

/-- A program: instructions, entered at the first. -/
abbrev Program := Array Inst

/-- The program of an expression: its block, and the instruction that accepts. -/
def program (r : Regex) : Program := (r.layout 0 r.size ++ [Inst.accept]).toArray

theorem size_program (r : Regex) : r.program.size = r.size + 1 := by
  simp [program, length_layout]

end Diagnostics.Regex
