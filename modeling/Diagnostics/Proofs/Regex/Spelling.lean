import Diagnostics.Proofs.Regex.Sequence

/-!
# Texts that an expression spells

Expressions without groups and assertions match a text wherever it stands: such an expression is told by the
texts that it spells (`Spells`). A character set once or more spells the texts of its members, and whatever a
sequence spells is put together from what its elements spell (`spellsAll_append`).

To read a bracket in a pattern as the set that was written one must know that the set has more than one
member, as a set of one member is read as a character. That is seen in its spans: tidying them up loses no
code point (`covers_tidy`).
-/

namespace Diagnostics

/-! ## Spans -/

namespace Spans

theorem covers_cons {a b : Nat} {s : Spans} {n : Nat} :
    covers ((a, b) :: s) n = true ↔ (a ≤ n ∧ n ≤ b) ∨ s.covers n = true := by
  simp [covers]

theorem covers_append {s t : Spans} {n : Nat} :
    covers (s ++ t) n = true ↔ s.covers n = true ∨ t.covers n = true := by
  simp [covers, List.any_append]

theorem covers_perm {s t : Spans} (h : s.Perm t) (n : Nat) : s.covers n = t.covers n := by
  rw [covers, covers, Bool.eq_iff_iff, List.any_eq_true, List.any_eq_true]
  simp only [h.mem_iff]

/-- Joining spans that are in order loses nothing and adds nothing. -/
theorem covers_joinFrom {n : Nat} : ∀ {s : Spans} {low high : Nat}, (∀ p ∈ s, low ≤ p.1) →
    s.Pairwise (fun p q => p.1 ≤ q.1) →
    ((joinFrom low high s).covers n = true ↔ (low ≤ n ∧ n ≤ high) ∨ s.covers n = true)
  | [], low, high, _, _ => by simp [joinFrom, covers]
  | (a, b) :: s, low, high, hlow, hs => by
    have ha : low ≤ a := hlow (a, b) (by simp)
    obtain ⟨hab, hs⟩ := List.pairwise_cons.1 hs
    unfold joinFrom
    split
    · rename_i hmeet
      rw [covers_joinFrom (fun p hp => hlow p (by simp [hp])) hs, covers_cons, ← or_assoc]
      refine or_congr_left ?_
      omega
    · rw [covers_cons, covers_joinFrom hab hs, covers_cons]

/-- **Tidying spans up** changes no code point. -/
theorem covers_filter {s : Spans} {f : Nat × Nat → Bool} (hf : ∀ p, f p = decide (p.1 ≤ p.2)) (n : Nat) :
    covers (s.filter f) n = s.covers n := by
  rw [covers, covers, Bool.eq_iff_iff, List.any_eq_true, List.any_eq_true]
  constructor
  · rintro ⟨p, hp, h⟩
    exact ⟨p, (List.mem_filter.1 hp).1, h⟩
  · rintro ⟨p, hp, h⟩
    have hle := h
    simp only [Bool.and_eq_true, decide_eq_true_eq] at hle
    exact ⟨p, List.mem_filter.2 ⟨hp, by rw [hf, decide_eq_true_eq]; exact Nat.le_trans hle.1 hle.2⟩, h⟩

theorem pairwise_sorted (s : Spans) : (s.mergeSort fun p q => p.1 ≤ q.1).Pairwise fun p q => p.1 ≤ q.1 := by
  refine (List.pairwise_mergeSort (fun a b c hab hbc => ?_) (fun a b => ?_) s).imp fun h => of_decide_eq_true h
  · simp only [decide_eq_true_eq] at *
    omega
  · simp only [Bool.or_eq_true, decide_eq_true_eq]
    omega

/-- Tidying covers what was covered. -/
theorem covers_tidy (s : Spans) (n : Nat) : (tidy s).covers n = s.covers n := by
  have hcovers : ∀ {t : Spans} {f : Nat × Nat → Bool} {le : Nat × Nat → Nat × Nat → Bool},
      (∀ p, f p = decide (p.1 ≤ p.2)) → (s.filter f).mergeSort le = t → t.covers n = s.covers n := by
    rintro t f le hf rfl
    rw [covers_perm (List.mergeSort_perm _ _), covers_filter hf]
  unfold tidy
  split
  · rename_i heq
    exact hcovers (fun _ => rfl) heq
  · rename_i a b rest heq
    have hsorted : ((a, b) :: rest).Pairwise fun p q => p.1 ≤ q.1 := by
      rw [← heq]
      exact pairwise_sorted _
    obtain ⟨ha, hrest⟩ := List.pairwise_cons.1 hsorted
    rw [← hcovers (fun _ => rfl) heq, Bool.eq_iff_iff, covers_joinFrom ha hrest, covers_cons]

end Spans

namespace CharSet

theorem covers_span (a b : Char) (n : Nat) :
    (span a b).spans.covers n = (decide (a.toNat ≤ n) && decide (n ≤ b.toNat)) := by
  rw [spans, Spans.covers_tidy]
  simp [Spans.covers]

theorem covers_union (a b : CharSet) (n : Nat) :
    (union a b).spans.covers n = (a.spans.covers n || b.spans.covers n) := by
  rw [spans, Spans.union, Spans.covers_tidy, Bool.eq_iff_iff, Spans.covers_append, Bool.or_eq_true]

/-- A set with two members has no only member. -/
theorem onlyMember?_eq_none {s : CharSet} {m n : Nat} (hm : s.spans.covers m = true)
    (hn : s.spans.covers n = true) (hne : m ≠ n) : s.onlyMember? = .none := by
  unfold onlyMember?
  split
  · rename_i a b heq
    split
    · rename_i hab
      simp only [heq, Spans.covers, List.any_cons, List.any_nil, Bool.or_false, Bool.and_eq_true,
        decide_eq_true_eq] at hm hn
      omega
    · rfl
  · rfl

end CharSet

namespace Regex

/-! ## Texts at a place -/

/-- The text between the two positions is `w`. -/
def Spelled (text : Array Char) (i j : Nat) (w : List Char) : Prop :=
  j = i + w.length ∧ w <+: text.toList.drop i

section
variable {text : Array Char} {i j : Nat}

theorem spelled_nil : Spelled text i j [] ↔ j = i := by simp [Spelled]

theorem spelled_append {v w : List Char} :
    Spelled text i j (v ++ w) ↔ ∃ k, Spelled text i k v ∧ Spelled text k j w := by
  constructor
  · rintro ⟨rfl, rest, h⟩
    refine ⟨i + v.length, ⟨rfl, w ++ rest, by simpa using h⟩, by simp; omega, rest, ?_⟩
    rw [← List.drop_drop, ← h]
    simp
  · rintro ⟨k, ⟨rfl, x, hv⟩, rfl, rest, hw⟩
    refine ⟨by simp; omega, rest, ?_⟩
    rw [← List.drop_drop, ← hv, List.drop_left] at hw
    rw [← hv, ← hw, List.append_assoc]

theorem spelled_singleton {c : Char} : Spelled text i j [c] ↔ text[i]? = some c ∧ j = i + 1 := by
  have hget : text[i]? = (text.toList.drop i).head? := by simp
  rw [Spelled, hget, and_comm]
  refine and_congr_left fun _ => ?_
  cases text.toList.drop i with
  | nil => simp
  | cons d ds => simp [eq_comm]

theorem spelled_cons {c : Char} {w : List Char} :
    Spelled text i j (c :: w) ↔ text[i]? = some c ∧ Spelled text (i + 1) j w := by
  rw [← List.singleton_append, spelled_append]
  simp only [spelled_singleton]
  constructor
  · rintro ⟨k, ⟨hc, rfl⟩, hw⟩; exact ⟨hc, hw⟩
  · exact fun ⟨hc, hw⟩ => ⟨i + 1, ⟨hc, rfl⟩, hw⟩

/-- The text between two positions is only one. -/
theorem Spelled.unique {v w : List Char} (hv : Spelled text i j v) (hw : Spelled text i j w) : v = w := by
  have hlen : v.length = w.length := by have := hv.1; have := hw.1; omega
  obtain ⟨x, hx⟩ := hv.2
  obtain ⟨y, hy⟩ := hw.2
  exact (List.append_inj (hx.trans hy.symm) hlen).1

end

/-! ## Expressions as sets of texts -/

/-- The expression matches the texts of `L`, wherever they stand, and leaves no marks. -/
def Spells (r : Regex) (L : List Char → Prop) : Prop :=
  ∀ text i j ms, Run text r i j ms ↔ ms = [] ∧ ∃ w, L w ∧ Spelled text i j w

theorem spells_char (s : CharSet) : Spells (.char s) fun w => ∃ c, s.contains c = true ∧ w = [c] := by
  intro text i j ms
  constructor
  · rintro ⟨⟩
    rename_i c hs hc
    exact ⟨rfl, [c], ⟨c, hs, rfl⟩, spelled_singleton.2 ⟨hc, rfl⟩⟩
  · rintro ⟨rfl, _, ⟨c, hs, rfl⟩, h⟩
    obtain ⟨hc, rfl⟩ := spelled_singleton.1 h
    exact .char hc hs

theorem Spells.congr {r : Regex} {L M : List Char → Prop} (h : Spells r L) (hLM : ∀ w, L w ↔ M w) : Spells r M := by
  intro text i j ms
  rw [h text i j ms]
  simp only [hLM]

theorem spells_single (c : Char) : Spells (.char (.single c)) fun w => w = [c] := by
  refine (spells_char (.single c)).congr fun w => ?_
  simp only [CharSet.contains_single, beq_iff_eq]
  constructor
  · rintro ⟨d, rfl, rfl⟩; rfl
  · rintro rfl; exact ⟨c, rfl, rfl⟩

/-- An expression for one character, once or more. -/
theorem spells_plus (g : Bool) {r : Regex} {P : Char → Prop} (hr : Spells r fun w => ∃ c, P c ∧ w = [c]) :
    Spells (.plus g r) fun w => w ≠ [] ∧ ∀ c ∈ w, P c := by
  intro text i j ms
  constructor
  · intro h
    generalize hp : Regex.plus g r = p at h
    induction h with
    | once h _ =>
      cases hp
      obtain ⟨rfl, _, ⟨c, hc, rfl⟩, hw⟩ := (hr _ _ _ _).1 h
      exact ⟨rfl, [c], ⟨by simp, by simpa using hc⟩, hw⟩
    | again h _ _ ih =>
      cases hp
      obtain ⟨rfl, _, ⟨c, hc, rfl⟩, hw⟩ := (hr _ _ _ _).1 h
      obtain ⟨rfl, w, ⟨-, hws⟩, hw'⟩ := ih rfl
      exact ⟨rfl, [c] ++ w, ⟨by simp, by simpa using ⟨hc, hws⟩⟩, spelled_append.2 ⟨_, hw, hw'⟩⟩
    | empty => cases hp
    | char => cases hp
    | assert => cases hp
    | group => cases hp
    | cat => cases hp
    | left => cases hp
    | right => cases hp
  · rintro ⟨rfl, w, ⟨hne, hw⟩, h⟩
    induction w generalizing i with
    | nil => exact absurd rfl hne
    | cons c w ih =>
      obtain ⟨hc, hrest⟩ := spelled_cons.1 h
      have hchar : Run text r i (i + 1) [] :=
        (hr _ _ _ _).2 ⟨rfl, [c], ⟨c, hw c (by simp), rfl⟩, spelled_singleton.2 ⟨hc, rfl⟩⟩
      cases w with
      | nil =>
        obtain rfl := spelled_nil.1 hrest
        exact .once hchar
      | cons d w =>
        have hagain := Run.again hchar (ih (i + 1) hrest (by simp) fun c hc => hw c (List.mem_cons_of_mem _ hc))
        exact hagain

/-- An expression for one character, any number of times. -/
theorem spells_star {r : Regex} {P : Char → Prop} (hr : Spells r fun w => ∃ c, P c ∧ w = [c]) :
    Spells (star true r) fun w => ∀ c ∈ w, P c := by
  intro text i j ms
  have hplus := spells_plus true hr text i j ms
  constructor
  · intro h
    cases h with
    | left h =>
      obtain ⟨rfl, w, ⟨-, hw⟩, h⟩ := hplus.1 h
      exact ⟨rfl, w, hw, h⟩
    | right h =>
      obtain ⟨rfl, rfl⟩ := run_empty.1 h
      exact ⟨rfl, [], by simp, spelled_nil.2 rfl⟩
  · rintro ⟨rfl, w, hw, h⟩
    by_cases hne : w = []
    · subst hne
      exact .right (run_empty.2 ⟨spelled_nil.1 h, rfl⟩)
    · exact .left (hplus.2 ⟨rfl, w, ⟨hne, hw⟩, h⟩)

theorem spells_alt {a b : Regex} {L M : List Char → Prop} (ha : Spells a L) (hb : Spells b M) :
    Spells (.alt a b) fun w => L w ∨ M w := by
  intro text i j ms
  constructor
  · intro h
    cases h with
    | left h =>
      obtain ⟨rfl, w, hw, h⟩ := (ha _ _ _ _).1 h
      exact ⟨rfl, w, .inl hw, h⟩
    | right h =>
      obtain ⟨rfl, w, hw, h⟩ := (hb _ _ _ _).1 h
      exact ⟨rfl, w, .inr hw, h⟩
  · rintro ⟨rfl, w, hw | hw, h⟩
    · exact .left ((ha _ _ _ _).2 ⟨rfl, w, hw, h⟩)
    · exact .right ((hb _ _ _ _).2 ⟨rfl, w, hw, h⟩)

/-- The expressions in sequence match the texts of `L`, wherever they stand, and leave no marks. -/
def SpellsAll (rs : List Regex) (L : List Char → Prop) : Prop :=
  ∀ text i j ms, RunAll text rs i j ms ↔ ms = [] ∧ ∃ w, L w ∧ Spelled text i j w

theorem spellsAll_nil : SpellsAll [] fun w => w = [] := by
  intro text i j ms
  rw [runAll_nil]
  constructor
  · rintro ⟨rfl, rfl⟩; exact ⟨rfl, [], rfl, spelled_nil.2 rfl⟩
  · rintro ⟨rfl, w, rfl, h⟩; exact ⟨spelled_nil.1 h, rfl⟩

theorem spellsAll_singleton {r : Regex} {L : List Char → Prop} (h : Spells r L) : SpellsAll [r] L :=
  fun text i j ms => runAll_singleton.trans (h text i j ms)

/-- **What sequences spell one after the other** is a text of the first and then a text of the second. -/
theorem spellsAll_append {rs ss : List Regex} {L M : List Char → Prop} (hr : SpellsAll rs L)
    (hs : SpellsAll ss M) : SpellsAll (rs ++ ss) fun w => ∃ u v, w = u ++ v ∧ L u ∧ M v := by
  intro text i j ms
  simp only [runAll_append, hr _ _ _ _, hs _ _ _ _]
  constructor
  · rintro ⟨k, m, n, ⟨rfl, u, hu, hut⟩, ⟨rfl, v, hv, hvt⟩, rfl⟩
    exact ⟨rfl, u ++ v, ⟨u, v, rfl, hu, hv⟩, spelled_append.2 ⟨k, hut, hvt⟩⟩
  · rintro ⟨rfl, w, ⟨u, v, rfl, hu, hv⟩, h⟩
    obtain ⟨k, hut, hvt⟩ := spelled_append.1 h
    exact ⟨k, [], [], ⟨rfl, u, hu, hut⟩, ⟨rfl, v, hv, hvt⟩, rfl⟩

theorem spellsAll_congr {rs : List Regex} {L M : List Char → Prop} (h : SpellsAll rs L)
    (hLM : ∀ w, L w ↔ M w) : SpellsAll rs M := by
  intro text i j ms
  rw [h text i j ms]
  simp only [hLM]

end Regex

end Diagnostics
