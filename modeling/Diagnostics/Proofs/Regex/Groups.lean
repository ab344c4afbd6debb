import Diagnostics.Proofs.Regex.Search

/-!
# Groups that take part in a match

A group takes part in a match if the run behind it has gone through the group. Two readings of an expression tell without a
text whether that happens: a group that is required stands on every way through the expression, so it takes part in
every match (`takesPart_of_requires`), and a group that is not mentioned takes part in none (`mentions_of_takesPart`). A
group inside a choice or an optional part is mentioned but not required: there the text decides.
-/

namespace Diagnostics.Regex

/-- Every way through the expression goes through the group. -/
def requires (index : Nat) : Regex → Bool
  | empty | char _ | assert _ => false
  | group i r => i == index || r.requires index
  | cat a b => a.requires index || b.requires index
  | alt a b => a.requires index && b.requires index
  | plus _ r => r.requires index

/-- The group occurs in the expression. -/
def mentions (index : Nat) : Regex → Bool
  | empty | char _ | assert _ => false
  | group i r => i == index || r.mentions index
  | cat a b => a.mentions index || b.mentions index
  | alt a b => a.mentions index || b.mentions index
  | plus _ r => r.mentions index

/-! ## Marks -/

/-- The marks say where the group starts and where it stops. -/
structure Marked (ms : Marks) (index : Nat) : Prop where
  start : ∃ i, (startSlot index, i) ∈ ms
  stop : ∃ j, (stopSlot index, j) ∈ ms

namespace Marked

variable {ms ns : Marks} {index : Nat}

theorem append_left (h : Marked ns index) : Marked (ns ++ ms) index :=
  ⟨h.start.imp fun _ => List.mem_append_left ms, h.stop.imp fun _ => List.mem_append_left ms⟩

theorem append_right (h : Marked ms index) : Marked (ns ++ ms) index :=
  ⟨h.start.imp fun _ => List.mem_append_right ns, h.stop.imp fun _ => List.mem_append_right ns⟩

theorem own (index i j : Nat) (ms : Marks) : Marked ((stopSlot index, j) :: ms ++ [(startSlot index, i)]) index :=
  ⟨⟨i, by simp⟩, ⟨j, by simp⟩⟩

theorem inside (h : Marked ms index) (k i j : Nat) :
    Marked ((stopSlot k, j) :: ms ++ [(startSlot k, i)]) index := by
  rw [← List.singleton_append (x := (stopSlot k, j))]
  exact h.append_right.append_left

end Marked

/-- A match knows the bounds of a group if and only if its marks say where the group starts and stops. -/
theorem group?_isSome_iff (m : Match) (index : Nat) : (m.group? index).isSome = true ↔ Marked m.marks index := by
  have hmark (slot : Nat) : (m.marks.lookup slot).isSome = true ↔ ∃ i, (slot, i) ∈ m.marks := by
    simp [List.lookup_isSome_iff]
  rw [Match.group?]
  constructor
  · intro h
    cases hstart : m.marks.lookup (startSlot index) with
    | none => rw [hstart] at h; cases h
    | some i =>
      cases hstop : m.marks.lookup (stopSlot index) with
      | none => rw [hstart, hstop] at h; cases h
      | some j => exact ⟨(hmark _).1 (by rw [hstart]; rfl), (hmark _).1 (by rw [hstop]; rfl)⟩
  · rintro ⟨hstart, hstop⟩
    obtain ⟨i, hi⟩ := Option.isSome_iff_exists.1 ((hmark _).2 hstart)
    obtain ⟨j, hj⟩ := Option.isSome_iff_exists.1 ((hmark _).2 hstop)
    rw [hi, hj]
    rfl

/-! ## Runs -/

variable {text : Array Char} {r : Regex} {i j index : Nat} {ms : Marks}

/-- **A run goes through every group that is required.** -/
theorem Run.marked_of_requires (h : Run text r i j ms) (hr : r.requires index = true) : Marked ms index := by
  induction h with
  | empty | char | assert => cases hr
  | @group k r i j ms _ ih =>
    rw [requires, Bool.or_eq_true, beq_iff_eq] at hr
    rcases hr with rfl | hr
    · exact .own k i j ms
    · exact (ih hr).inside k i j
  | cat _ _ iha ihb =>
    rw [requires, Bool.or_eq_true] at hr
    rcases hr with hr | hr
    · exact (iha hr).append_right
    · exact (ihb hr).append_left
  | left _ ih =>
    rw [requires, Bool.and_eq_true] at hr
    exact ih hr.1
  | right _ ih =>
    rw [requires, Bool.and_eq_true] at hr
    exact ih hr.2
  | once _ ih => exact ih hr
  | again _ _ ih _ => exact (ih hr).append_right

/-- **A run marks the end of no group that is not mentioned.** -/
theorem Run.mentions_of_mem (h : Run text r i j ms) {stop : Nat} (hm : (stopSlot index, stop) ∈ ms) :
    r.mentions index = true := by
  induction h with
  | empty | char | assert => cases hm
  | @group k r i j ms _ ih =>
    simp only [List.cons_append, List.mem_cons, List.mem_append, List.not_mem_nil, or_false, Prod.mk.injEq] at hm
    rw [mentions, Bool.or_eq_true, beq_iff_eq]
    rcases hm with ⟨hslot, -⟩ | hm | ⟨hslot, -⟩
    · exact .inl (by simp only [stopSlot] at hslot; omega)
    · exact .inr (ih hm)
    · exact absurd hslot (by simp only [stopSlot, startSlot]; omega)
  | cat _ _ iha ihb =>
    rw [mentions, Bool.or_eq_true]
    exact (List.mem_append.1 hm).symm.imp iha ihb
  | left _ ih => rw [mentions, ih hm, Bool.true_or]
  | right _ ih => rw [mentions, ih hm, Bool.or_true]
  | once _ ih => exact ih hm
  | again _ _ ih ihs => exact (List.mem_append.1 hm).elim ihs ih

/-! ## Matches -/

/-- A group that is required takes part in every match. -/
theorem takesPart_of_requires {m : Match} (h : find? r.program text = some m) (hr : r.requires index = true) :
    (m.group? index).isSome = true := by
  obtain ⟨i, -, -, ms, hrun, hmarks⟩ := find?_eq_some h
  rw [group?_isSome_iff, hmarks]
  exact (hrun.marked_of_requires hr).append_left

/-- A group that takes part in a match is mentioned. -/
theorem mentions_of_takesPart {m : Match} (h : find? r.program text = some m)
    (hpart : (m.group? index).isSome = true) : r.mentions index = true := by
  obtain ⟨i, -, -, ms, hrun, hmarks⟩ := find?_eq_some h
  obtain ⟨stop, hstop⟩ := ((group?_isSome_iff m index).1 hpart).stop
  rw [hmarks, List.mem_append, List.mem_singleton, Prod.mk.injEq] at hstop
  rcases hstop with hstop | ⟨hslot, -⟩
  · exact hrun.mentions_of_mem hstop
  · exact absurd hslot (by simp only [stopSlot, startSlot]; omega)

end Diagnostics.Regex
