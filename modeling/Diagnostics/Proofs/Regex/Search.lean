import Diagnostics.Proofs.Regex.Run
import Mathlib.Data.List.Perm.Subperm
import Mathlib.Data.Set.Insert

/-!
# What a search finds

A search visits each place once, so it does not try every path. That loses nothing: a place from which
acceptance could still be reached is never among those that are left out (`Open`, `open_step`). Hence a search
finds a thread whenever some position starts a run, the first such position is the one it finds
(`search_eq_none_iff`, `search_eq_some`), and among the ways that lead on from a thread the one taken is the
first from which acceptance could be reached without going round in a circle (`Preferred`).
-/

namespace Diagnostics.Regex

/-- Where a thread stands, apart from its marks. -/
def Thread.key (t : Thread) : Nat × Nat := (t.address, t.position)

/-- The thread stands in the program and in the text. -/
def Thread.Within (p : Program) (text : Array Char) (t : Thread) : Prop :=
  t.address < p.size ∧ t.position ≤ text.size

/-- No instruction leads out of the program. -/
def Closed (p : Program) (text : Array Char) : Prop :=
  ∀ t : Thread, t.Within p text → ∀ s ∈ t.successors p text, s.Within p text

section
variable {p : Program} {text : Array Char} {V W : Set (Nat × Nat)}

/-- Acceptance can be reached from the thread by way of places outside `V`. -/
inductive Open (p : Program) (text : Array Char) (V : Set (Nat × Nat)) : Thread → Prop
  | accept {t : Thread} (hv : t.key ∉ V) (ha : t.accepts p = true) : Open p text V t
  | step {t s : Thread} (hv : t.key ∉ V) (hs : s ∈ t.successors p text) (h : Open p text V s) :
    Open p text V t

/-- The second thread is where the first ends up if every step takes the first way that is still open once the
places passed are closed behind it. -/
inductive Preferred (p : Program) (text : Array Char) : Set (Nat × Nat) → Thread → Thread → Prop
  | accept {V : Set (Nat × Nat)} {t : Thread} (ha : t.accepts p = true) : Preferred p text V t t
  | step {V : Set (Nat × Nat)} {t s u : Thread} {before after : List Thread}
    (hs : t.successors p text = before ++ s :: after)
    (hb : ∀ q ∈ before, ¬ Open p text (insert t.key V) q)
    (h : Preferred p text (insert t.key V) s u) : Preferred p text V t u

/-! ## Open threads -/

theorem Open.not_mem {t : Thread} (h : Open p text V t) : t.key ∉ V := by
  cases h with
  | accept hv _ => exact hv
  | step hv _ _ => exact hv

theorem Open.mono {t : Thread} (h : Open p text W t) (hVW : V ⊆ W) : Open p text V t := by
  induction h with
  | accept hv ha => exact .accept (fun hm => hv (hVW hm)) ha
  | step hv hs _ ih => exact .step (fun hm => hv (hVW hm)) hs ih

/-- If nothing open is closed, what is open stays open. -/
theorem Open.extend {t : Thread} (h : Open p text V t) (hVW : ∀ s : Thread, Open p text V s → s.key ∉ W) :
    Open p text W t := by
  induction h with
  | accept hv ha => exact .accept (hVW _ (.accept hv ha)) ha
  | step hv hs h ih => exact .step (hVW _ (.step hv hs h)) hs ih

theorem accepts_key {t u : Thread} (hk : t.key = u.key) : t.accepts p = u.accepts p := by
  simp only [Thread.key, Prod.mk.injEq] at hk
  simp [Thread.accepts, hk.1]

/-- What a thread can do does not depend on its marks. -/
theorem successors_key {t u s : Thread} (hk : t.key = u.key) (hs : s ∈ t.successors p text) :
    ∃ s' ∈ u.successors p text, s.key = s'.key := by
  obtain ⟨a, i, m⟩ := t
  obtain ⟨b, j, n⟩ := u
  simp only [Thread.key, Prod.mk.injEq] at hk
  obtain ⟨rfl, rfl⟩ := hk
  cases hp : p[a]? with
  | none => simp [Thread.successors, hp] at hs
  | some inst =>
    rw [mem_successors hp] at hs
    simp only [mem_successors (t := ⟨a, i, n⟩) hp]
    cases inst with
    | accept => exact hs.elim
    | jump next => subst hs; exact ⟨_, rfl, rfl⟩
    | char cs next => obtain ⟨c, hc, hcs, rfl⟩ := hs; exact ⟨_, ⟨c, hc, hcs, rfl⟩, rfl⟩
    | assert a next => obtain ⟨ha, rfl⟩ := hs; exact ⟨_, ⟨ha, rfl⟩, rfl⟩
    | save slot next => subst hs; exact ⟨_, rfl, rfl⟩
    | fork first second =>
      rcases hs with rfl | rfl
      · exact ⟨_, Or.inl rfl, rfl⟩
      · exact ⟨_, Or.inr rfl, rfl⟩

theorem Open.of_key {t : Thread} (h : Open p text V t) : ∀ {u : Thread}, t.key = u.key → Open p text V u := by
  induction h with
  | accept hv ha =>
    intro u hk
    exact .accept (hk ▸ hv) (accepts_key hk ▸ ha)
  | step hv hs _ ih =>
    intro u hk
    obtain ⟨s', hs', hk'⟩ := successors_key hk hs
    exact .step (hk ▸ hv) hs' (ih hk')

/-- Close one more place: a thread stays open unless its ways lead through that place. -/
theorem Open.close {x : Nat × Nat} {t : Thread} (h : Open p text V t) :
    Open p text (insert x V) t ∨
      ∃ u : Thread, u.key = x ∧ (u.accepts p = true ∨ ∃ s ∈ u.successors p text, Open p text (insert x V) s) := by
  induction h with
  | @accept t hv ha =>
    by_cases hx : t.key = x
    · exact .inr ⟨t, hx, .inl ha⟩
    · exact .inl (.accept (by simp [hx, hv]) ha)
  | @step t s hv hs _ ih =>
    rcases ih with ih | ih
    · by_cases hx : t.key = x
      · exact .inr ⟨t, hx, .inr ⟨s, hs, ih⟩⟩
      · exact .inl (.step (by simp [hx, hv]) hs ih)
    · exact .inr ih

/-- From an open thread a step leads on that does not need to come back. -/
theorem open_step {t : Thread} (h : Open p text V t) (ha : t.accepts p = false) :
    ∃ s ∈ t.successors p text, Open p text (insert t.key V) s := by
  rcases h.close (x := t.key) with h | ⟨u, hk, hu | ⟨s, hs, ho⟩⟩
  · exact absurd (Set.mem_insert _ _) h.not_mem
  · rw [accepts_key hk, ha] at hu
    cases hu
  · obtain ⟨s', hs', hk'⟩ := successors_key hk hs
    exact ⟨s', hs', ho.of_key hk'⟩

/-- The first member of a list with a property. -/
theorem exists_first {α : Type} {P : α → Prop} : ∀ {l : List α}, (∃ a ∈ l, P a) →
    ∃ before a after, l = before ++ a :: after ∧ (∀ b ∈ before, ¬ P b) ∧ P a
  | [], h => by simp at h
  | b :: l, h => by
    by_cases hb : P b
    · exact ⟨[], b, l, rfl, by simp, hb⟩
    · obtain ⟨a, ha, hP⟩ := h
      rcases List.mem_cons.1 ha with rfl | ha
      · exact absurd hP hb
      · obtain ⟨before, a', after, rfl, hbs, ha'⟩ := exists_first ⟨a, ha, hP⟩
        refine ⟨b :: before, a', after, rfl, fun q hq => ?_, ha'⟩
        rcases List.mem_cons.1 hq with rfl | hq
        · exact hb
        · exact hbs q hq

/-- Closing places that are not open changes no preference. -/
theorem Preferred.congr {t u : Thread} (h : Preferred p text W t u) :
    ∀ {V : Set (Nat × Nat)}, V ⊆ W → (∀ s : Thread, Open p text V s → s.key ∉ W) → Preferred p text V t u := by
  induction h with
  | accept ha => exact fun _ _ => .accept ha
  | @step W t s u before after hs hb _ ih =>
    intro V hVW hW
    have hW' : ∀ q : Thread, Open p text (insert t.key V) q → q.key ∉ insert t.key W := fun q hq hm => by
      rcases hm with hm | hm
      · exact hq.not_mem (.inl hm)
      · exact hW q (hq.mono (Set.subset_insert _ _)) hm
    exact .step hs (fun q hq ho => hb q hq (ho.extend hW')) (ih (Set.insert_subset_insert hVW) hW')

theorem Preferred.path {t u : Thread} (h : Preferred p text V t u) :
    (∃ n, Path p text n t u) ∧ u.accepts p = true := by
  induction h with
  | accept ha => exact ⟨⟨0, .refl _⟩, ha⟩
  | step hs _ _ ih =>
    obtain ⟨⟨n, h⟩, ha⟩ := ih
    exact ⟨⟨n + 1, .step (by simp [hs]) h⟩, ha⟩

theorem open_empty_iff {t : Thread} :
    Open p text ∅ t ↔ ∃ u n, Path p text n t u ∧ u.accepts p = true := by
  constructor
  · intro h
    induction h with
    | accept _ ha => exact ⟨_, 0, .refl _, ha⟩
    | step _ hs _ ih =>
      obtain ⟨u, n, h, ha⟩ := ih
      exact ⟨u, n + 1, .step hs h, ha⟩
  · rintro ⟨u, n, h, ha⟩
    induction h with
    | refl => exact .accept (by simp) ha
    | step hs _ ih => exact .step (by simp) hs (ih ha)

/-! ## The places visited -/

/-- The places within the text whose numbers have been visited. -/
def visitedKeys (text : Array Char) (visited : Std.HashSet Nat) : Set (Nat × Nat) :=
  {k | k.2 ≤ text.size ∧ k.1 * (text.size + 1) + k.2 ∈ visited}

theorem place_mem_iff {visited : Std.HashSet Nat} {t : Thread} (ht : t.position ≤ text.size) :
    visited.contains (t.place text) = true ↔ t.key ∈ visitedKeys text visited := by
  simp [visitedKeys, Thread.key, Thread.place, ht]

/-- Different places of the text have different numbers. -/
theorem place_inj {n a b i j : Nat} (hi : i ≤ n) (hj : j ≤ n) (h : a * (n + 1) + i = b * (n + 1) + j) :
    a = b ∧ i = j := by
  have hmod : (a * (n + 1) + i) % (n + 1) = (b * (n + 1) + j) % (n + 1) := congrArg (· % (n + 1)) h
  rw [Nat.mul_comm a, Nat.mul_comm b, Nat.mul_add_mod, Nat.mul_add_mod, Nat.mod_eq_of_lt (by omega),
    Nat.mod_eq_of_lt (by omega)] at hmod
  subst hmod
  exact ⟨Nat.eq_of_mul_eq_mul_right (Nat.succ_pos n) (Nat.add_right_cancel h), rfl⟩

theorem visitedKeys_insert {visited : Std.HashSet Nat} {t : Thread} (ht : t.position ≤ text.size) :
    visitedKeys text (visited.insert (t.place text)) = insert t.key (visitedKeys text visited) := by
  ext ⟨a, i⟩
  simp only [visitedKeys, Set.mem_ofPred_eq, Std.HashSet.mem_insert, beq_iff_eq, Set.mem_insert_iff,
    Thread.key, Thread.place, Prod.mk.injEq]
  constructor
  · rintro ⟨hi, h | h⟩
    · obtain ⟨rfl, rfl⟩ := place_inj ht hi h
      exact .inl ⟨rfl, rfl⟩
    · exact .inr ⟨hi, h⟩
  · rintro (⟨rfl, rfl⟩ | ⟨hi, h⟩)
    · exact ⟨ht, .inl rfl⟩
    · exact ⟨hi, .inr h⟩

theorem place_lt {t : Thread} (ht : t.Within p text) : t.place text < placeCount p text := by
  obtain ⟨ha, hi⟩ := ht
  calc t.address * (text.size + 1) + t.position
      < t.address * (text.size + 1) + (text.size + 1) := by omega
    _ = (t.address + 1) * (text.size + 1) := by rw [Nat.succ_mul]
    _ ≤ p.size * (text.size + 1) := Nat.mul_le_mul_right _ ha

/-- A place that has not been visited leaves room: the bound of the search is never met. -/
theorem size_lt_of_not_mem {visited : Std.HashSet Nat} {n x : Nat} (hv : ∀ y ∈ visited, y < n) (hx : x < n)
    (hnot : x ∉ visited) : visited.size < n := by
  have hnodup : (x :: visited.toList).Nodup := by
    refine List.nodup_cons.2 ⟨by simpa using hnot, ?_⟩
    exact visited.distinct_toList.imp (by simp)
  have hsub : x :: visited.toList ⊆ List.range n := by
    intro y hy
    rcases List.mem_cons.1 hy with rfl | hy
    · exact List.mem_range.2 hx
    · exact List.mem_range.2 (hv y (by simpa using hy))
  have := (hnodup.subperm hsub).length_le
  simp only [List.length_cons, Std.HashSet.length_toList, List.length_range] at this
  omega

/-! ## Following threads -/

/-- The result that a stack of threads must have: the first open thread decides, and there is none if no thread is
open. -/
structure Decides (p : Program) (text : Array Char) (V : Set (Nat × Nat)) (stack : List Thread)
    (result : Option Thread) : Prop where
  nothing : (∀ t ∈ stack, ¬ Open p text V t) → result = none
  first : ∀ before t rest, stack = before ++ t :: rest → (∀ q ∈ before, ¬ Open p text V q) → Open p text V t →
    ∃ u, result = some u ∧ Preferred p text V t u

theorem decides_nil : Decides p text V [] none :=
  { nothing := fun _ => rfl, first := fun before t rest h => by simp at h }

/-- A thread that is not open can be left out. -/
theorem Decides.cons_closed {t : Thread} {rest : List Thread} {result : Option Thread} (ht : ¬ Open p text V t)
    (h : Decides p text V rest result) : Decides p text V (t :: rest) result := by
  refine ⟨fun hno => h.nothing fun q hq => hno q (List.mem_cons_of_mem t hq), fun before s after hst hb hs => ?_⟩
  cases before with
  | nil =>
    obtain ⟨rfl, -⟩ := List.cons.inj hst
    exact absurd hs ht
  | cons q before =>
    obtain ⟨rfl, hrest⟩ := List.cons.inj hst
    exact h.first before s after hrest (fun q' hq' => hb q' (List.mem_cons_of_mem _ hq')) hs

/-- A thread that accepts is the result. -/
theorem decides_accept {t : Thread} (ho : Open p text V t) (ha : t.accepts p = true) (rest : List Thread) :
    Decides p text V (t :: rest) (some t) := by
  refine ⟨fun hno => absurd ho (hno t (by simp)), fun before s after hst hb hs => ?_⟩
  cases before with
  | nil =>
    obtain ⟨rfl, -⟩ := List.cons.inj hst
    exact ⟨t, rfl, .accept ha⟩
  | cons q before =>
    obtain ⟨rfl, -⟩ := List.cons.inj hst
    exact absurd ho (hb t (by simp))

/-- **One step of the search**: the thread on top is replaced by its successors, and its place is closed. -/
theorem Decides.cons_step {t : Thread} {rest : List Thread} {result : Option Thread} (hv : t.key ∉ V)
    (ha : t.accepts p = false)
    (h : Decides p text (insert t.key V) (t.successors p text ++ rest) result) :
    Decides p text V (t :: rest) result := by
  have hsub : V ⊆ insert t.key V := Set.subset_insert _ _
  by_cases ht : Open p text V t
  · -- the first successor that is open without coming back is the one preferred
    refine ⟨fun hno => absurd ht (hno t (by simp)), fun before s after hst hb hs => ?_⟩
    cases before with
    | nil =>
      obtain ⟨rfl, -⟩ := List.cons.inj hst
      obtain ⟨pre, s, post, hsplit, hpre, hs'⟩ := exists_first (open_step hs ha)
      obtain ⟨u, hu, hpref⟩ := h.first pre s (post ++ rest) (by simp [hsplit]) hpre hs'
      exact ⟨u, hu, .step hsplit hpre hpref⟩
    | cons q before =>
      obtain ⟨rfl, -⟩ := List.cons.inj hst
      exact absurd ht (hb t (by simp))
  · have hsucc : ∀ q ∈ t.successors p text, ¬ Open p text (insert t.key V) q :=
      fun q hq ho => ht (.step hv hq (ho.mono hsub))
    -- nothing open leads through a place that is not open
    have havoid : ∀ q : Thread, Open p text V q → q.key ∉ insert t.key V := by
      rintro q hq (hm | hm)
      · exact ht (hq.of_key hm)
      · exact hq.not_mem hm
    refine .cons_closed ht ⟨fun hno => h.nothing fun q hq => ?_, fun before s after hst hb hs => ?_⟩
    · rcases List.mem_append.1 hq with hq | hq
      · exact hsucc q hq
      · exact fun ho => hno q hq (ho.mono hsub)
    · obtain ⟨u, hu, hpref⟩ := h.first (t.successors p text ++ before) s after (by simp [hst])
        (fun q hq => by
          rcases List.mem_append.1 hq with hq | hq
          · exact hsucc q hq
          · exact fun ho => hb q hq (ho.mono hsub))
        (hs.extend havoid)
      exact ⟨u, hu, hpref.congr hsub havoid⟩

/-- **The search through a stack** comes back with what its first open thread decides. -/
theorem follow_decides (hp : Closed p text) (visited : Std.HashSet Nat) (stack : List Thread)
    (hv : ∀ n ∈ visited, n < placeCount p text) (hw : ∀ t ∈ stack, t.Within p text) :
    Decides p text (visitedKeys text visited) stack (follow p text visited stack) := by
  induction visited, stack using follow.induct p text with
  | case1 visited =>
    rw [follow]
    exact decides_nil
  | case2 visited t rest hmem ih =>
    have hkey := (place_mem_iff (hw t (by simp)).2).1 hmem
    rw [follow, if_pos hmem]
    exact (ih hv fun q hq => hw q (List.mem_cons_of_mem t hq)).cons_closed fun ho => ho.not_mem hkey
  | case3 visited t rest hmem hacc =>
    have hkey := mt (place_mem_iff (hw t (by simp)).2).2 hmem
    rw [follow, if_neg hmem, if_pos hacc]
    exact decides_accept (.accept hkey hacc) hacc rest
  | case4 visited t rest hmem hacc hroom ih =>
    have htw := hw t (by simp)
    have hkey := mt (place_mem_iff htw.2).2 hmem
    rw [visitedKeys_insert htw.2] at ih
    rw [follow, if_neg hmem, if_neg hacc, if_pos hroom]
    refine (ih (fun n hn => ?_) fun q hq => ?_).cons_step hkey (by simpa using hacc)
    · rcases Std.HashSet.mem_insert.1 hn with hn | hn
      · rw [← eq_of_beq hn]
        exact place_lt htw
      · exact hv n hn
    · rcases List.mem_append.1 hq with hq | hq
      · exact hp t htw q hq
      · exact hw q (List.mem_cons_of_mem t hq)
  | case5 visited t rest hmem hacc hroom =>
    exact absurd (size_lt_of_not_mem hv (place_lt (hw t (by simp))) (by simpa using hmem)) hroom

end

/-! ## The program of an expression -/

/-- The addresses that an instruction leads to. -/
def Inst.targets : Inst → List Nat
  | accept => []
  | jump next => [next]
  | char _ next => [next]
  | assert _ next => [next]
  | save _ next => [next]
  | fork first second => [first, second]

theorem targets_layout (r : Regex) : ∀ {base next : Nat} {inst : Inst}, inst ∈ r.layout base next →
    ∀ a ∈ inst.targets, (base ≤ a ∧ a < base + r.size) ∨ a = next := by
  induction r with
  | empty => simp [layout, Inst.targets]
  | char => simp [layout, Inst.targets]
  | assert => simp [layout, Inst.targets]
  | group k r ih =>
    intro base next inst hi a ha
    simp only [layout, List.cons_append, List.mem_cons, List.mem_append, List.not_mem_nil, or_false] at hi
    simp only [size]
    rcases hi with rfl | hi | rfl
    · simp only [Inst.targets, List.mem_singleton] at ha; omega
    · have := ih hi a ha; omega
    · simp only [Inst.targets, List.mem_singleton] at ha; omega
  | cat a b iha ihb =>
    intro base next inst hi x hx
    have := size_pos b
    simp only [layout, List.mem_append] at hi
    simp only [size]
    rcases hi with hi | hi
    · have := iha hi x hx; omega
    · have := ihb hi x hx; omega
  | alt a b iha ihb =>
    intro base next inst hi x hx
    have := size_pos a
    have := size_pos b
    simp only [layout, List.mem_cons, List.mem_append] at hi
    simp only [size]
    rcases hi with rfl | hi | hi
    · simp only [Inst.targets, List.mem_cons, List.not_mem_nil, or_false] at hx; omega
    · have := iha hi x hx; omega
    · have := ihb hi x hx; omega
  | plus g r ih =>
    intro base next inst hi x hx
    have := size_pos r
    simp only [layout, List.mem_append, List.mem_singleton] at hi
    simp only [size]
    rcases hi with hi | rfl
    · have := ih hi x hx; omega
    · cases g <;> simp [Inst.targets] at hx <;> omega

/-- A step follows an instruction and takes one character at most. -/
theorem successor_cases {p : Program} {text : Array Char} {t s : Thread} (hs : s ∈ t.successors p text) :
    ∃ inst, p[t.address]? = some inst ∧ s.address ∈ inst.targets ∧
      (s.position = t.position ∨ s.position = t.position + 1 ∧ t.position < text.size) := by
  cases hp : p[t.address]? with
  | none => simp [Thread.successors, hp] at hs
  | some inst =>
    refine ⟨inst, rfl, ?_⟩
    rw [mem_successors hp] at hs
    cases inst with
    | accept => exact hs.elim
    | jump next => subst hs; exact ⟨by simp [Inst.targets], .inl rfl⟩
    | char cs next =>
      obtain ⟨c, hc, -, rfl⟩ := hs
      exact ⟨by simp [Inst.targets], .inr ⟨rfl, (Array.getElem?_eq_some_iff.1 hc).1⟩⟩
    | assert a next => obtain ⟨-, rfl⟩ := hs; exact ⟨by simp [Inst.targets], .inl rfl⟩
    | save slot next => subst hs; exact ⟨by simp [Inst.targets], .inl rfl⟩
    | fork first second =>
      rcases hs with rfl | rfl
      · exact ⟨by simp [Inst.targets], .inl rfl⟩
      · exact ⟨by simp [Inst.targets], .inl rfl⟩

theorem mem_program {r : Regex} {k : Nat} {inst : Inst} (h : r.program[k]? = some inst) :
    inst ∈ r.layout 0 r.size ∨ inst = .accept := by
  have hm := Array.mem_of_getElem? h
  simpa [program] using hm

theorem closed_program (r : Regex) (text : Array Char) : Closed r.program text := by
  intro t ht s hs
  obtain ⟨inst, hi, ha, hpos⟩ := successor_cases hs
  refine ⟨?_, by have := ht.2; omega⟩
  rw [size_program]
  rcases mem_program hi with hm | rfl
  · have := targets_layout r hm s.address ha; omega
  · simp [Inst.targets] at ha

theorem within_start (r : Regex) {text : Array Char} {t : Thread} (ht : t ∈ starts text) :
    t.Within r.program text := by
  simp only [starts, List.mem_map, List.mem_range] at ht
  obtain ⟨i, hi, rfl⟩ := ht
  exact ⟨by rw [size_program]; exact Nat.succ_pos _, by simp only; omega⟩

theorem visitedKeys_empty (text : Array Char) : visitedKeys text ∅ = ∅ := by
  ext k
  simp [visitedKeys]

/-- The thread that starts at a position. -/
def startThread (i : Nat) : Thread := { address := 0, position := i, marks := [(startSlot 0, i)] }

theorem starts_eq (text : Array Char) : starts text = (List.range (text.size + 1)).map startThread := rfl

theorem open_start_iff (r : Regex) (text : Array Char) (i : Nat) :
    Open r.program text ∅ (startThread i) ↔ ∃ j ms, Run text r i j ms := by
  rw [open_empty_iff]
  constructor
  · rintro ⟨u, n, h, ha⟩
    obtain ⟨j, ms, hrun, -⟩ := accepting_path_iff.1 ⟨⟨n, h⟩, ha⟩
    exact ⟨j, ms, hrun⟩
  · rintro ⟨j, ms, hrun⟩
    obtain ⟨⟨n, h⟩, ha⟩ := accepting_path_iff.2 ⟨j, ms, hrun, rfl⟩
    exact ⟨_, n, h, ha⟩

/-- **A search finds nothing only if there is nothing**: no position of the text starts a run. -/
theorem search_eq_none_iff (r : Regex) (text : Array Char) :
    search r.program text = none ↔ ∀ i ≤ text.size, ∀ j ms, ¬ Run text r i j ms := by
  have spec := follow_decides (closed_program r text) ∅ (starts text) (by simp) (fun t ht => within_start r ht)
  rw [visitedKeys_empty] at spec
  constructor
  · intro hnone i hi j ms hrun
    have hex : ∃ t ∈ starts text, Open r.program text ∅ t :=
      ⟨startThread i, List.mem_map.2 ⟨i, List.mem_range.2 (by omega), rfl⟩, (open_start_iff r text i).2 ⟨j, ms, hrun⟩⟩
    obtain ⟨before, t, rest, hst, hb, ho⟩ := exists_first hex
    obtain ⟨u, hu, -⟩ := spec.first before t rest hst hb ho
    rw [search, hu] at hnone
    cases hnone
  · intro hno
    refine spec.nothing (fun t ht ho => ?_)
    obtain ⟨i, hi, rfl⟩ := List.mem_map.1 ht
    obtain ⟨j, ms, hrun⟩ := (open_start_iff r text i).1 ho
    exact hno i (by have := List.mem_range.1 hi; omega) j ms hrun

/-- **What a search finds** is the preferred thread of the first position that starts a run. -/
theorem search_eq_some {r : Regex} {text : Array Char} {u : Thread} (h : search r.program text = some u) :
    ∃ i ≤ text.size, (∀ k < i, ∀ j ms, ¬ Run text r k j ms) ∧ Preferred r.program text ∅ (startThread i) u := by
  have spec := follow_decides (closed_program r text) ∅ (starts text) (by simp) (fun t ht => within_start r ht)
  rw [visitedKeys_empty] at spec
  have hex : ∃ i ∈ List.range (text.size + 1), Open r.program text ∅ (startThread i) := by
    by_contra hno
    have hnone := spec.nothing (fun t ht ho => by
      obtain ⟨i, hi, rfl⟩ := List.mem_map.1 ht
      exact hno ⟨i, hi, ho⟩)
    rw [search, hnone] at h
    cases h
  obtain ⟨before, i, rest, hst, hb, ho⟩ := exists_first hex
  have hi : before.length = i := by
    have := congrArg (·[before.length]?) hst
    have hlen : before.length < text.size + 1 := by
      have := congrArg List.length hst
      simp at this
      omega
    simpa [List.getElem?_range hlen] using this
  have hstarts : starts text = before.map startThread ++ startThread i :: rest.map startThread := by
    rw [starts_eq, hst, List.map_append, List.map_cons]
  obtain ⟨u', hu', hpref⟩ := spec.first _ _ _ hstarts (by simpa using hb) ho
  rw [search, hu'] at h
  cases h
  have hle : i ≤ text.size := by
    have := List.mem_range.1 (hst ▸ (by simp : i ∈ before ++ i :: rest))
    omega
  refine ⟨i, hle, fun k hk j ms hrun => ?_, hpref⟩
  have hmem : k ∈ before := by
    have hlt : k < before.length := by omega
    have hk' := congrArg (·[k]?) hst
    simp only [List.getElem?_append_left hlt] at hk'
    rw [List.getElem?_range (by omega)] at hk'
    exact List.mem_of_getElem? hk'.symm
  exact hb k hmem ((open_start_iff r text k).2 ⟨j, ms, hrun⟩)

/-! ## Matches -/

/-- A program finds a match if and only if its expression has a run. -/
theorem isSome_find?_iff (r : Regex) (text : Array Char) :
    (find? r.program text).isSome = true ↔ ∃ i ≤ text.size, ∃ j ms, Run text r i j ms := by
  have hnone := search_eq_none_iff r text
  cases h : search r.program text with
  | none =>
    have hno := hnone.1 h
    simp only [find?, h, Option.map_none, Option.isSome_none, Bool.false_eq_true, false_iff]
    rintro ⟨i, hi, j, ms, hrun⟩
    exact hno i hi j ms hrun
  | some u =>
    obtain ⟨i, hi, -, hpref⟩ := search_eq_some h
    obtain ⟨j, ms, hrun, -⟩ := accepting_path_iff.1 hpref.path
    simp only [find?, h, Option.map_some, Option.isSome_some, true_iff]
    exact ⟨i, hi, j, ms, hrun⟩

/-- **A match is a run** of the expression from the first position that starts one. -/
theorem find?_eq_some {r : Regex} {text : Array Char} {m : Match} (h : find? r.program text = some m) :
    ∃ i ≤ text.size, (∀ k < i, ∀ j ms, ¬ Run text r k j ms) ∧
      ∃ ms, Run text r i m.stop ms ∧ m.marks = ms ++ [(startSlot 0, i)] := by
  rw [find?, Option.map_eq_some_iff] at h
  obtain ⟨u, hu, rfl⟩ := h
  obtain ⟨i, hi, hfirst, hpref⟩ := search_eq_some hu
  obtain ⟨j, ms, hrun, rfl⟩ := accepting_path_iff.1 hpref.path
  exact ⟨i, hi, hfirst, ms, hrun, rfl⟩

end Diagnostics.Regex
