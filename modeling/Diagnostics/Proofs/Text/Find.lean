import Diagnostics.Text.Find

/-!
# Cutting a text in two

Cutting around an occurrence loses nothing, and a text is cut whenever the part occurs in it: at the first place
of the part (`FirstAt.cut`) or at the last (`LastAt.cut`).
-/

namespace Diagnostics

section

variable {α : Type}

/-! ## First and last places -/

/-- The part stands between `before` and `after`, and at no place nearer to the start. -/
structure FirstAt (part cs before after : List α) : Prop where
  split : cs = before ++ (part ++ after)
  le : ∀ {x y}, cs = x ++ (part ++ y) → before.length ≤ x.length

/-- The part stands between `before` and `after`, and at no place nearer to the end. -/
structure LastAt (part cs before after : List α) : Prop where
  split : cs = before ++ (part ++ after)
  le : ∀ {x y}, cs = x ++ (part ++ y) → x.length ≤ before.length

/-- Places as far from the start are the same. -/
theorem place_unique {part before before' after after' : List α}
    (h : before ++ (part ++ after) = before' ++ (part ++ after')) (hlen : before.length = before'.length) :
    before = before' ∧ after = after' := by
  obtain ⟨hbefore, hrest⟩ := List.append_inj h hlen
  exact ⟨hbefore, List.append_cancel_left hrest⟩

/-- A first place is that of any beginning that holds the part. -/
theorem FirstAt.of_append {part cs before after r : List α} (h : FirstAt part cs before (after ++ r)) :
    FirstAt part (before ++ (part ++ after)) before after := by
  refine ⟨rfl, fun {x y} hx => h.le (y := y ++ r) ?_⟩
  have hcs : cs = before ++ (part ++ after) ++ r := by
    rw [h.split]
    simp only [List.append_assoc]
  rw [hcs, hx]
  simp only [List.append_assoc]

/-- What stands first in the beginning of a text stands first in the text. -/
theorem FirstAt.append {part cs before after : List α} (h : FirstAt part cs before after) (r : List α) :
    FirstAt part (cs ++ r) before (after ++ r) := by
  refine ⟨by rw [h.split]; simp only [List.append_assoc], fun {x y} hx => Nat.le_of_not_lt fun hlt => ?_⟩
  -- a place nearer to the start would lie in the beginning
  have hlen : (x ++ part).length ≤ cs.length := by
    rw [h.split]
    simp only [List.length_append]
    omega
  have hprefix : x ++ part <+: cs ++ r := ⟨y, by rw [hx, List.append_assoc]⟩
  obtain ⟨z, hz⟩ := List.prefix_of_prefix_length_le hprefix (List.prefix_append cs r) hlen
  exact absurd hlt (Nat.not_lt.2 (h.le (y := z) (by rw [← hz, List.append_assoc])))

end

/-! ## Cuts -/

variable {α : Type} [DecidableEq α]

theorem afterStart?_eq_some_iff {part cs rest : List α} :
    afterStart? part cs = some rest ↔ cs = part ++ rest := by
  induction part generalizing cs with
  | nil => simp [afterStart?, eq_comm]
  | cons p part ih =>
    cases cs with
    | nil => simp [afterStart?]
    | cons c cs =>
      simp only [afterStart?]
      split
      · rename_i hpc
        rw [ih, hpc, List.cons_append, List.cons.injEq, eq_self_iff_true, true_and]
      · rename_i hpc
        simp [Ne.symm hpc]

theorem afterStart?_cons (p c : α) (part cs : List α) :
    afterStart? (p :: part) (c :: cs) = if p = c then afterStart? part cs else none := rfl

theorem afterStart?_of_ne {p c : α} (h : p ≠ c) (part cs : List α) : afterStart? (p :: part) (c :: cs) = none :=
  if_neg h

theorem afterStart?_append (u part cs : List α) : afterStart? (u ++ part) (u ++ cs) = afterStart? part cs := by
  induction u with
  | nil => rfl
  | cons c u ih => rw [List.cons_append, List.cons_append, afterStart?_cons, if_pos rfl, ih]

theorem cutAtFirst?_of_start {part cs after : List α} {c : α} (h : afterStart? part (c :: cs) = some after) :
    cutAtFirst? part (c :: cs) = some ([], after) := by
  rw [cutAtFirst?, h]

theorem cutAtFirst?_of_none {part cs : List α} {c : α} (h : afterStart? part (c :: cs) = none) :
    cutAtFirst? part (c :: cs) = (cutAtFirst? part cs).map (Prod.map (c :: ·) id) := by
  rw [cutAtFirst?, h]
  rfl

theorem cutAtFirst?_append {p : α} {u : List α} (hu : p ∉ u) (part cs : List α) :
    cutAtFirst? (p :: part) (u ++ cs) = (cutAtFirst? (p :: part) cs).map (Prod.map (u ++ ·) id) := by
  induction u with
  | nil =>
    rw [List.nil_append]
    cases cutAtFirst? (p :: part) cs <;> rfl
  | cons c u ih =>
    rw [List.mem_cons, not_or] at hu
    rw [List.cons_append, cutAtFirst?_of_none (afterStart?_of_ne hu.1 part (u ++ cs)), ih hu.2, Option.map_map]
    rfl

theorem cutAtLast?_of_some {part cs : List α} {cut : List α × List α} (h : cutAtLast? part cs = some cut) (c : α) :
    cutAtLast? part (c :: cs) = some (Prod.map (c :: ·) id cut) := by
  rw [cutAtLast?, h]
  rfl

theorem cutAtLast?_of_none {part cs : List α} (h : cutAtLast? part cs = none) (c : α) :
    cutAtLast? part (c :: cs) = (afterStart? part (c :: cs)).map fun after => ([], after) := by
  rw [cutAtLast?, h]

theorem cutAtFirst?_eq_some {part cs before after : List α} (h : cutAtFirst? part cs = some (before, after)) :
    cs = before ++ (part ++ after) := by
  induction cs generalizing before with
  | nil =>
    obtain ⟨rest, hrest, heq⟩ := Option.map_eq_some_iff.1 h
    obtain ⟨rfl, rfl⟩ := Prod.mk.inj heq
    rw [List.nil_append, afterStart?_eq_some_iff.1 hrest]
  | cons c cs ih =>
    simp only [cutAtFirst?] at h
    split at h
    · rename_i rest hrest
      obtain ⟨rfl, rfl⟩ := Prod.mk.inj (Option.some.inj h)
      rw [List.nil_append, afterStart?_eq_some_iff.1 hrest]
    · obtain ⟨⟨before', after'⟩, hcut, heq⟩ := Option.map_eq_some_iff.1 h
      obtain ⟨rfl, rfl⟩ := Prod.mk.inj heq
      rw [ih hcut, List.cons_append]

theorem cutAtLast?_eq_some {part cs before after : List α} (h : cutAtLast? part cs = some (before, after)) :
    cs = before ++ (part ++ after) := by
  induction cs generalizing before with
  | nil =>
    obtain ⟨rest, hrest, heq⟩ := Option.map_eq_some_iff.1 h
    obtain ⟨rfl, rfl⟩ := Prod.mk.inj heq
    rw [List.nil_append, afterStart?_eq_some_iff.1 hrest]
  | cons c cs ih =>
    simp only [cutAtLast?] at h
    split at h
    · rename_i before' after' hcut
      obtain ⟨rfl, rfl⟩ := Prod.mk.inj (Option.some.inj h)
      rw [ih hcut, List.cons_append]
    · obtain ⟨rest, hrest, heq⟩ := Option.map_eq_some_iff.1 h
      obtain ⟨rfl, rfl⟩ := Prod.mk.inj heq
      rw [List.nil_append, afterStart?_eq_some_iff.1 hrest]

/-- A part occurs if it stands somewhere in the list. -/
theorem occursIn_iff {part cs : List α} : occursIn part cs = true ↔ part <:+: cs := by
  constructor
  · intro h
    obtain ⟨⟨before, after⟩, hcut⟩ := Option.isSome_iff_exists.1 h
    exact ⟨before, after, by rw [cutAtFirst?_eq_some hcut, List.append_assoc]⟩
  · rintro ⟨before, after, rfl⟩
    induction before with
    | nil =>
      have hstart : afterStart? part (part ++ after) = some after := afterStart?_eq_some_iff.2 rfl
      rw [List.nil_append, occursIn]
      cases hcs : part ++ after with
      | nil => rw [hcs] at hstart; simp [cutAtFirst?, hstart]
      | cons c cs => rw [hcs] at hstart; simp [cutAtFirst?, hstart]
    | cons b before ih =>
      rw [occursIn] at ih ⊢
      simp only [List.cons_append, cutAtFirst?]
      split
      · rfl
      · rw [Option.isSome_map, ih]

/-! ## Cutting at the first and at the last place -/

theorem cutAtFirst?_spec {part cs before after : List α} (h : cutAtFirst? part cs = some (before, after)) :
    FirstAt part cs before after := by
  refine ⟨cutAtFirst?_eq_some h, fun {x y} hx => ?_⟩
  induction cs generalizing before x with
  | nil =>
    obtain ⟨rest, -, heq⟩ := Option.map_eq_some_iff.1 h
    obtain ⟨rfl, -⟩ := Prod.mk.inj heq
    exact Nat.zero_le _
  | cons c cs ih =>
    cases hstart : afterStart? part (c :: cs) with
    | some rest =>
      rw [cutAtFirst?_of_start hstart] at h
      obtain ⟨rfl, -⟩ := Prod.mk.inj (Option.some.inj h)
      exact Nat.zero_le _
    | none =>
      rw [cutAtFirst?_of_none hstart] at h
      obtain ⟨⟨before', after'⟩, hcut, heq⟩ := Option.map_eq_some_iff.1 h
      obtain ⟨rfl, rfl⟩ := Prod.mk.inj heq
      cases x with
      | nil =>
        rw [List.nil_append] at hx
        rw [afterStart?_eq_some_iff.2 hx] at hstart
        cases hstart
      | cons d x =>
        obtain ⟨-, hx⟩ := List.cons.inj hx
        exact Nat.succ_le_succ (ih hcut hx)

/-- A text that has the part is cut at its first place. -/
theorem FirstAt.cut {part cs before after : List α} (h : FirstAt part cs before after) :
    cutAtFirst? part cs = some (before, after) := by
  have hoccurs : occursIn part cs = true := occursIn_iff.2 ⟨before, after, by rw [h.split, List.append_assoc]⟩
  obtain ⟨⟨before', after'⟩, hcut⟩ := Option.isSome_iff_exists.1 hoccurs
  have h' := cutAtFirst?_spec hcut
  obtain ⟨rfl, rfl⟩ := place_unique (h.split.symm.trans h'.split) (Nat.le_antisymm (h.le h'.split) (h'.le h.split))
  exact hcut

theorem exists_firstAt {part cs : List α} (h : part <:+: cs) : ∃ before after, FirstAt part cs before after := by
  obtain ⟨⟨before, after⟩, hcut⟩ := Option.isSome_iff_exists.1 (occursIn_iff.2 h)
  exact ⟨before, after, cutAtFirst?_spec hcut⟩

theorem cutAtFirst?_eq_none_iff {part cs : List α} : cutAtFirst? part cs = none ↔ ¬ part <:+: cs := by
  rw [← occursIn_iff, occursIn, Bool.not_eq_true, Option.isSome_eq_false_iff, Option.isNone_iff_eq_none]

/-- A text that has the part is cut at some place. -/
theorem cutAtLast?_ne_none (part x y : List α) : cutAtLast? part (x ++ (part ++ y)) ≠ none := by
  induction x with
  | nil =>
    have hstart : afterStart? part (part ++ y) = some y := afterStart?_eq_some_iff.2 rfl
    rw [List.nil_append]
    cases hcs : part ++ y with
    | nil => rw [hcs] at hstart; simp [cutAtLast?, hstart]
    | cons c cs =>
      rw [hcs] at hstart
      cases hcut : cutAtLast? part cs with
      | some cut => simp [cutAtLast?_of_some hcut]
      | none => simp [cutAtLast?_of_none hcut, hstart]
  | cons c x ih =>
    obtain ⟨cut, hcut⟩ := Option.ne_none_iff_exists'.1 ih
    rw [List.cons_append, cutAtLast?_of_some hcut]
    exact Option.some_ne_none _

theorem cutAtLast?_spec {part cs before after : List α} (h : cutAtLast? part cs = some (before, after)) :
    LastAt part cs before after := by
  refine ⟨cutAtLast?_eq_some h, fun {x y} hx => ?_⟩
  induction cs generalizing before x with
  | nil =>
    obtain ⟨rfl, -⟩ := List.append_eq_nil_iff.1 hx.symm
    exact Nat.zero_le _
  | cons c cs ih =>
    cases x with
    | nil => exact Nat.zero_le _
    | cons d x =>
      obtain ⟨-, hx⟩ := List.cons.inj hx
      cases hcut : cutAtLast? part cs with
      | some cut =>
        rw [cutAtLast?_of_some hcut] at h
        obtain ⟨rfl, rfl⟩ := Prod.mk.inj (Option.some.inj h)
        exact Nat.succ_le_succ (ih hcut hx)
      | none =>
        rw [hx] at hcut
        exact absurd hcut (cutAtLast?_ne_none part x y)

/-- A text that has the part is cut at its last place. -/
theorem LastAt.cut {part cs before after : List α} (h : LastAt part cs before after) :
    cutAtLast? part cs = some (before, after) := by
  have hne : cutAtLast? part cs ≠ none := by
    rw [h.split]
    exact cutAtLast?_ne_none part before after
  obtain ⟨⟨before', after'⟩, hcut⟩ := Option.ne_none_iff_exists'.1 hne
  have h' := cutAtLast?_spec hcut
  obtain ⟨rfl, rfl⟩ := place_unique (h.split.symm.trans h'.split) (Nat.le_antisymm (h'.le h.split) (h.le h'.split))
  exact hcut

theorem exists_lastAt {part cs : List α} (h : part <:+: cs) : ∃ before after, LastAt part cs before after := by
  obtain ⟨x, y, rfl⟩ := h
  rw [List.append_assoc]
  obtain ⟨⟨before, after⟩, hcut⟩ := Option.ne_none_iff_exists'.1 (cutAtLast?_ne_none part x y)
  exact ⟨before, after, cutAtLast?_spec hcut⟩

end Diagnostics
