import Diagnostics.Proofs.Regex.Search
import Diagnostics.Proofs.Regex.Spelling

/-!
# A greedy end takes everything

A group at the end of a pattern that takes any character, once or more and rather more often, takes all that is left
of the text. Going round the loop once more stays possible as long as a character is left, since the places
further on have not been visited (`Fresh`), and the loop prefers it (`preferred_loop`). What stands in front
of the group leads to it and to nothing behind it (`Preferred.reach`).
-/

namespace Diagnostics.Regex

/-- A group of any characters, once or more and rather more often, and the end of the program behind it. -/
structure TailLoop (p : Program) (a : Nat) : Prop where
  enter : p[a]? = some (.save (startSlot 2) (a + 1))
  fork : p[a + 1]? = some (.fork (a + 2) (a + 3))
  other : p[a + 2]? = some (.char .notNewline (a + 4))
  newline : p[a + 3]? = some (.char (.single '\n') (a + 4))
  loop : p[a + 4]? = some (.fork (a + 1) (a + 5))
  leave : p[a + 5]? = some (.save (stopSlot 2) (a + 6))
  accept : p[a + 6]? = some .accept

section
variable {p : Program} {text : Array Char} {a : Nat} {V : Set (Nat × Nat)}

/-- Of the places of the loop none at a later position has been visited, and at this position only the last. -/
def Fresh (a : Nat) (V : Set (Nat × Nat)) (k : Nat) : Prop :=
  ∀ x ∈ V, a + 1 ≤ x.1 → x.2 < k ∨ (x.2 = k ∧ x.1 = a + 4)

theorem successors_fork {t : Thread} {first second : Nat} (h : p[t.address]? = some (.fork first second)) :
    t.successors p text = [{ t with address := first }, { t with address := second }] := by
  simp [Thread.successors, h]

theorem successors_char {t : Thread} {s : CharSet} {next : Nat} (h : p[t.address]? = some (.char s next)) {q : Thread}
    (hq : q ∈ t.successors p text) :
    t.position < text.size ∧ q = { t with address := next, position := t.position + 1 } := by
  obtain ⟨c, hc, -, rfl⟩ := (mem_successors h).1 hq
  exact ⟨(Array.getElem?_eq_some_iff.1 hc).1, rfl⟩

/-- A path never goes back in the text. -/
theorem Path.position_le {n : Nat} {t u : Thread} (h : Path p text n t u) : t.position ≤ u.position := by
  induction h with
  | refl => exact Nat.le_refl _
  | step hs _ ih =>
    obtain ⟨-, -, -, hpos⟩ := successor_cases hs
    omega

/-- A path does not leave the program. -/
theorem Path.within (hclosed : Closed p text) {n : Nat} {t u : Thread} (h : Path p text n t u) :
    t.Within p text → u.Within p text := by
  induction h with
  | refl => exact id
  | step hs _ ih => exact fun ht => ih (hclosed _ ht _ hs)

/-- A thread is open if its instruction leads to an open thread. -/
theorem Open.of_steps {inst : Inst} {b k : Nat} {m : Marks} {s : Thread} (hp : p[b]? = some inst) (hv : (b, k) ∉ V)
    (hs : inst.Steps text ⟨b, k, m⟩ s) (h : Open p text V s) : Open p text V ⟨b, k, m⟩ :=
  .step hv ((mem_successors (t := ⟨b, k, m⟩) hp).2 hs) h

/-- The last place of the loop leads to the end. -/
theorem TailLoop.open_loop (hp : TailLoop p a) {k : Nat} {m : Marks} (h4 : (a + 4, k) ∉ V) (h5 : (a + 5, k) ∉ V)
    (h6 : (a + 6, k) ∉ V) : Open p text V ⟨a + 4, k, m⟩ := by
  have haccept : Open p text V ⟨a + 6, k, (stopSlot 2, k) :: m⟩ :=
    .accept h6 (by simp [Thread.accepts, hp.accept])
  exact .of_steps hp.loop h4 (.inr rfl) (.of_steps hp.leave h5 rfl haccept)

/-- While a character is left, the loop can go round once more. -/
theorem TailLoop.open_fork (hp : TailLoop p a) {k : Nat} {m : Marks} (hV : Fresh a V k) (hk : k < text.size) :
    Open p text V ⟨a + 1, k, m⟩ := by
  have hnot : ∀ b j, a + 1 ≤ b → k ≤ j → (j = k → b ≠ a + 4) → (b, j) ∉ V := by
    intro b j hb hj hbk hm
    rcases hV (b, j) hm hb with h | ⟨h, h'⟩
    · exact absurd h (by simp only; omega)
    · exact hbk h h'
  have hloop : Open p text V ⟨a + 4, k + 1, m⟩ := hp.open_loop (hnot _ _ (by omega) (by omega) (by omega))
    (hnot _ _ (by omega) (by omega) (by omega)) (hnot _ _ (by omega) (by omega) (by omega))
  have h1 := hnot (a + 1) k (by omega) (by omega) (by omega)
  have h2 := hnot (a + 2) k (by omega) (by omega) (by omega)
  have h3 := hnot (a + 3) k (by omega) (by omega) (by omega)
  obtain ⟨c, hc⟩ : ∃ c, text[k]? = some c := ⟨text[k], Array.getElem?_eq_getElem hk⟩
  by_cases hn : c = '\n'
  · have hchar : Open p text V ⟨a + 3, k, m⟩ :=
      .of_steps hp.newline h3 ⟨c, hc, by simp [CharSet.contains_single, hn], rfl⟩ hloop
    exact .of_steps hp.fork h1 (.inr rfl) hchar
  · have hchar : Open p text V ⟨a + 2, k, m⟩ :=
      .of_steps hp.other h2 ⟨c, hc, by simp [CharSet.contains_notNewline, Ne.symm hn], rfl⟩ hloop
    exact .of_steps hp.fork h1 (.inl rfl) hchar

/-- One way round the loop takes one character. -/
theorem TailLoop.round (hp : TailLoop p a) {t u : Thread} (ht : t.address = a + 1) (h : Preferred p text V t u) :
    t.position < text.size ∧ ∃ x m, (x = a + 2 ∨ x = a + 3) ∧
      Preferred p text (insert (x, t.position) (insert t.key V)) ⟨a + 4, t.position + 1, m⟩ u := by
  have hfork : p[t.address]? = some (.fork (a + 2) (a + 3)) := by rw [ht, hp.fork]
  cases h with
  | accept ha => simp [Thread.accepts, hfork] at ha
  | @step _ _ s _ before after hs _ h =>
    have hmem : s ∈ t.successors p text := by rw [hs]; simp
    obtain ⟨x, inst, rfl, hx, hinst⟩ : ∃ x cs, s = { t with address := x } ∧ (x = a + 2 ∨ x = a + 3) ∧
        p[x]? = some (.char cs (a + 4)) := by
      rcases (mem_successors hfork).1 hmem with rfl | rfl
      · exact ⟨_, _, rfl, .inl rfl, hp.other⟩
      · exact ⟨_, _, rfl, .inr rfl, hp.newline⟩
    cases h with
    | accept ha => simp [Thread.accepts, hinst] at ha
    | @step _ _ q _ before after hs _ h =>
      have hq : q ∈ Thread.successors p text { t with address := x } := by rw [hs]; simp
      obtain ⟨hlt, rfl⟩ := successors_char hinst hq
      exact ⟨hlt, x, t.marks, hx, h⟩

/-- **The loop runs to the end of the text.** -/
theorem preferred_loop (hp : TailLoop p a) (hclosed : Closed p text) {t u : Thread} (ht : t.address = a + 1)
    (hV : Fresh a V t.position) (h : Preferred p text V t u) : u.position = text.size := by
  induction hleft : text.size - t.position using Nat.strongRecOn generalizing t V with
  | ind n ih =>
    obtain ⟨hlt, x, m, hx, h⟩ := hp.round ht h
    have hW : Fresh a (insert (a + 4, t.position + 1) (insert (x, t.position) (insert t.key V))) (t.position + 1) := by
      rintro ⟨b, j⟩ hm hb
      simp only [Set.mem_insert_iff, Prod.mk.injEq, Thread.key] at hm
      rcases hm with ⟨rfl, rfl⟩ | ⟨-, rfl⟩ | ⟨-, rfl⟩ | hm
      · exact .inr ⟨rfl, rfl⟩
      · exact .inl (Nat.lt_succ_self _)
      · exact .inl (Nat.lt_succ_self _)
      · rcases hV (b, j) hm hb with hj | ⟨hj, -⟩
        · exact .inl (Nat.lt_succ_of_lt hj)
        · exact .inl (by simp only at hj ⊢; omega)
    by_cases hmore : t.position + 1 < text.size
    · -- a character is left: the loop is entered again
      cases h with
      | accept ha => simp [Thread.accepts, hp.loop] at ha
      | @step _ _ s _ before after hs hb h =>
        rw [successors_fork (t := ⟨a + 4, t.position + 1, m⟩) hp.loop] at hs
        cases before with
        | nil =>
          obtain ⟨rfl, -⟩ := List.cons.inj hs
          exact ih _ (by simp only; omega) rfl hW h rfl
        | cons q before =>
          obtain ⟨rfl, -⟩ := List.cons.inj hs
          exact absurd (hp.open_fork hW hmore) (hb ⟨a + 1, t.position + 1, m⟩ List.mem_cons_self)
    · obtain ⟨⟨k, hpath⟩, -⟩ := h.path
      have hle : t.position + 1 ≤ u.position := hpath.position_le
      have hstart : (⟨a + 4, t.position + 1, m⟩ : Thread).Within p text :=
        ⟨(Array.getElem?_eq_some_iff.1 hp.loop).1, by simp only; omega⟩
      have hsize := (hpath.within hclosed hstart).2
      omega

/-- **What stands in front of an address leads to it.** If no instruction before the address leads past it, then a
thread that starts before it comes to it by way of places before it. -/
theorem Preferred.reach (htargets : ∀ b inst, b < a → p[b]? = some inst → ∀ x ∈ inst.targets, x ≤ a)
    {t u : Thread} (h : Preferred p text V t u) (ht : t.address ≤ a) (hu : a ≤ u.address)
    (hV : ∀ x ∈ V, x.1 < a) :
    ∃ W s, s.address = a ∧ (∀ x ∈ W, x.1 < a) ∧ Preferred p text W s u := by
  induction h with
  | @accept V t ha => exact ⟨V, t, Nat.le_antisymm ht hu, hV, .accept ha⟩
  | @step V t s u before after hs hb h ih =>
    rcases Nat.lt_or_ge t.address a with hlt | hge
    · have hmem : s ∈ t.successors p text := by rw [hs]; simp
      obtain ⟨inst, hinst, hx, -⟩ := successor_cases hmem
      refine ih (htargets _ _ hlt hinst _ hx) hu fun x hx => ?_
      rcases hx with rfl | hx
      · exact hlt
      · exact hV x hx
    · exact ⟨V, t, Nat.le_antisymm ht hge, hV, .step hs hb h⟩

/-- **A greedy group at the end takes all that is left.** -/
theorem preferred_tail (hp : TailLoop p a) (hclosed : Closed p text)
    (htargets : ∀ b inst, b < a → p[b]? = some inst → ∀ x ∈ inst.targets, x ≤ a) {t u : Thread} (ht : t.address ≤ a)
    (hu : a ≤ u.address) (h : Preferred p text ∅ t u) : u.position = text.size := by
  obtain ⟨W, s, hs, hW, h⟩ := h.reach htargets ht hu (by simp)
  have henter : p[s.address]? = some (.save (startSlot 2) (a + 1)) := by rw [hs, hp.enter]
  cases h with
  | accept ha => simp [Thread.accepts, henter] at ha
  | @step _ _ q _ before after hsucc _ h =>
    have hq : q ∈ s.successors p text := by rw [hsucc]; simp
    obtain rfl := (mem_successors henter).1 hq
    refine preferred_loop hp hclosed rfl ?_ h
    intro x hx hxa
    rcases hx with rfl | hx
    · simp only [Thread.key] at hxa
      omega
    · have := hW x hx
      omega

end

end Diagnostics.Regex
