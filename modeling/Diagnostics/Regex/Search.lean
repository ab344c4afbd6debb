import Diagnostics.Regex.Program
import Std.Data.HashSet

/-!
# Search

A search runs threads of a program over a text. A thread is an address, a position and the marks it has
left; what it can reach does not depend on the marks, so of all threads that come to one address at one
position only the first is followed. Threads are kept on a stack in the order of preference, beginning with
one thread for each position of the text: the first thread to accept is the leftmost match, and of the
matches that start there the preferred one.
-/

namespace Diagnostics.Regex

/-- Positions left by a thread, the latest first: pairs of a slot and a position. -/
abbrev Marks := List (Nat × Nat)

/-- A thread of a search. -/
structure Thread where
  address : Nat
  position : Nat
  marks : Marks

/-- The character before a position. -/
def charBefore (text : Array Char) (position : Nat) : Option Char :=
  if position = 0 then none else text[position - 1]?

/-- Where a thread goes in one step, the preferred way first. -/
def Thread.successors (p : Program) (text : Array Char) (t : Thread) : List Thread :=
  match p[t.address]? with
  | none => []
  | some .accept => []
  | some (.jump next) => [{ t with address := next }]
  | some (.char s next) =>
    match text[t.position]? with
    | some c => if s.contains c then [{ t with address := next, position := t.position + 1 }] else []
    | none => []
  | some (.assert a next) =>
    if a.holds (charBefore text t.position) text[t.position]? then [{ t with address := next }] else []
  | some (.save slot next) => [{ t with address := next, marks := (slot, t.position) :: t.marks }]
  | some (.fork first second) => [{ t with address := first }, { t with address := second }]

/-- The thread stands at the instruction that accepts. -/
def Thread.accepts (p : Program) (t : Thread) : Bool := p[t.address]? == some .accept

/-- A number for the place where a thread stands, different for different places. -/
def Thread.place (text : Array Char) (t : Thread) : Nat := t.address * (text.size + 1) + t.position

/-- The number of places that there are. -/
def placeCount (p : Program) (text : Array Char) : Nat := p.size * (text.size + 1)

/-- Follow the threads on the stack until one accepts. A place is visited once, so the number of places
bounds the search. -/
def follow (p : Program) (text : Array Char) (visited : Std.HashSet Nat) : List Thread → Option Thread
  | [] => none
  | t :: rest =>
    if visited.contains (t.place text) then follow p text visited rest
    else if t.accepts p then some t
    else if visited.size < placeCount p text then
      follow p text (visited.insert (t.place text)) (t.successors p text ++ rest)
    else none
termination_by stack => (placeCount p text - visited.size, stack.length)
decreasing_by
  · exact Prod.Lex.right _ (Nat.lt_succ_self _)
  · rename_i h _ hlt
    apply Prod.Lex.left
    have : (visited.insert (t.place text)).size = visited.size + 1 := by
      rw [Std.HashSet.size_insert]
      simp only [Std.HashSet.mem_iff_contains, h]
      rfl
    omega

/-- One thread for each position of the text, each with its start marked as the start of group 0. -/
def starts (text : Array Char) : List Thread :=
  (List.range (text.size + 1)).map fun i => { address := 0, position := i, marks := [(startSlot 0, i)] }

/-- The thread of the preferred match. -/
def search (p : Program) (text : Array Char) : Option Thread := follow p text ∅ (starts text)

/-! ## Matches -/

/-- A match: where it ends, and the marks of its groups. -/
structure Match where
  stop : Nat
  marks : Marks

/-- The bounds of a group that took part in the match. -/
def Match.group? (m : Match) (index : Nat) : Option (Nat × Nat) := do
  let start ← m.marks.lookup (startSlot index)
  let stop ← m.marks.lookup (stopSlot index)
  pure (start, stop)

/-- The text between two positions. -/
def slice (text : Array Char) (start stop : Nat) : String :=
  String.ofList ((text.toList.drop start).take (stop - start))

/-- The text of a group that took part in the match. -/
def Match.text? (m : Match) (text : Array Char) (index : Nat) : Option String :=
  (m.group? index).map fun (start, stop) => slice text start stop

/-- The leftmost match of a program, and of those that start there the preferred one. -/
def find? (p : Program) (text : Array Char) : Option Match :=
  (search p text).map fun t => { stop := t.position, marks := t.marks }

end Diagnostics.Regex
