import Diagnostics.Proofs.Regex.Run

/-!
# Sequences

Working in the flags flattens a sequence and joins neighbouring characters to literals. What the sequence
matches is not touched by that: it matches whatever its elements match one after the other
(`run_sequence`).
-/

namespace Diagnostics.Regex

/-- The expressions match the text one after the other. -/
inductive RunAll (text : Array Char) : List Regex → Nat → Nat → Marks → Prop
  | nil {i : Nat} : RunAll text [] i i []
  | cons {r : Regex} {rs : List Regex} {i j k : Nat} {ms ns : Marks} (h : Run text r i k ms)
    (hs : RunAll text rs k j ns) : RunAll text (r :: rs) i j (ns ++ ms)

section
variable {text : Array Char} {i j : Nat} {ms : Marks}

theorem runAll_nil : RunAll text [] i j ms ↔ j = i ∧ ms = [] := by
  constructor
  · rintro ⟨⟩; exact ⟨rfl, rfl⟩
  · rintro ⟨rfl, rfl⟩; exact .nil

theorem runAll_cons {r : Regex} {rs : List Regex} :
    RunAll text (r :: rs) i j ms ↔
      ∃ k m n, Run text r i k m ∧ RunAll text rs k j n ∧ ms = n ++ m := by
  constructor
  · rintro ⟨⟩; exact ⟨_, _, _, ‹_›, ‹_›, rfl⟩
  · rintro ⟨k, m, n, h, hs, rfl⟩; exact .cons h hs

theorem runAll_singleton {r : Regex} : RunAll text [r] i j ms ↔ Run text r i j ms := by
  simp only [runAll_cons, runAll_nil]
  constructor
  · rintro ⟨k, m, n, h, ⟨rfl, rfl⟩, rfl⟩; exact h
  · exact fun h => ⟨j, ms, [], h, ⟨rfl, rfl⟩, rfl⟩

theorem runAll_append (rs : List Regex) {ss : List Regex} :
    RunAll text (rs ++ ss) i j ms ↔
      ∃ k m n, RunAll text rs i k m ∧ RunAll text ss k j n ∧ ms = n ++ m := by
  induction rs generalizing i ms with
  | nil =>
    simp only [List.nil_append, runAll_nil]
    constructor
    · exact fun h => ⟨i, [], ms, ⟨rfl, rfl⟩, h, by simp⟩
    · rintro ⟨k, m, n, ⟨rfl, rfl⟩, h, rfl⟩; simpa using h
  | cons r rs ih =>
    simp only [List.cons_append, runAll_cons, ih]
    constructor
    · rintro ⟨k, m, n, h, ⟨k', m', n', h', h'', rfl⟩, rfl⟩
      exact ⟨k', m' ++ m, n', ⟨k, m, m', h, h', rfl⟩, h'', by simp⟩
    · rintro ⟨k', m', n', ⟨k, m, n, h, h', rfl⟩, h'', rfl⟩
      exact ⟨k, m, n' ++ n, h, ⟨k', n, n', h', h'', rfl⟩, by simp⟩

theorem run_empty : Run text .empty i j ms ↔ j = i ∧ ms = [] := by
  constructor
  · rintro ⟨⟩; exact ⟨rfl, rfl⟩
  · rintro ⟨rfl, rfl⟩; exact .empty

theorem run_cat {a b : Regex} :
    Run text (.cat a b) i j ms ↔ ∃ k m n, Run text a i k m ∧ Run text b k j n ∧ ms = n ++ m := by
  constructor
  · rintro ⟨⟩; exact ⟨_, _, _, ‹_›, ‹_›, rfl⟩
  · rintro ⟨k, m, n, h, h', rfl⟩; exact .cat h h'

theorem run_group {k : Nat} {r : Regex} :
    Run text (.group k r) i j ms ↔
      ∃ m, Run text r i j m ∧ ms = (stopSlot k, j) :: m ++ [(startSlot k, i)] := by
  constructor
  · rintro ⟨⟩; exact ⟨_, ‹_›, rfl⟩
  · rintro ⟨m, h, rfl⟩; exact .group h

/-- A literal is its characters one after the other. -/
theorem run_ofChars (cs : List Char) :
    Run text (.ofChars cs) i j ms ↔ RunAll text (cs.map fun c => .char (.single c)) i j ms := by
  induction cs generalizing i ms with
  | nil => rw [List.map_nil, runAll_nil]; exact run_empty
  | cons c cs ih =>
    cases cs with
    | nil => rw [List.map_cons, List.map_nil, runAll_singleton]; rfl
    | cons d cs => simp only [ofChars, run_cat, ih, List.map_cons, runAll_cons]

end

/-! ## Shapes of sequences -/

namespace Shape

section
variable {text : Array Char} {i j : Nat} {ms : Marks}

theorem run_ofParts (as : List Shape) :
    Run text (ofParts as).toRegex i j ms ↔ RunAll text (as.map toRegex) i j ms := by
  induction as generalizing i ms with
  | nil => rw [List.map_nil, runAll_nil]; exact run_empty
  | cons a as ih =>
    cases as with
    | nil => rw [List.map_cons, List.map_nil, runAll_singleton]; rfl
    | cons b as => simp only [ofParts, toRegex, run_cat, ih, List.map_cons, runAll_cons]

/-- Joining two literals changes nothing. -/
theorem run_consPart (a : Shape) (as : List Shape) :
    RunAll text ((consPart a as).map toRegex) i j ms ↔ RunAll text ((a :: as).map toRegex) i j ms := by
  unfold consPart
  split
  · rename_i cs ds rest
    simp only [List.map_cons, toRegex, runAll_cons (r := ofChars _), run_ofChars, List.map_append,
      runAll_append]
    constructor
    · rintro ⟨k, m, n, ⟨k', m', n', h, h', rfl⟩, h'', rfl⟩
      exact ⟨k', m', n ++ n', h, ⟨k, n', n, h', h'', rfl⟩, by simp⟩
    · rintro ⟨k, m, n, h, ⟨k', m', n', h', h'', rfl⟩, rfl⟩
      exact ⟨k', m' ++ m, n', ⟨k, m, m', h, h', rfl⟩, h'', by simp⟩
  · exact Iff.rfl

theorem run_joined (as : List Shape) :
    RunAll text ((as.foldr consPart []).map toRegex) i j ms ↔ RunAll text (as.map toRegex) i j ms := by
  induction as generalizing i ms with
  | nil => exact Iff.rfl
  | cons a as ih => simp only [List.foldr_cons, run_consPart, List.map_cons, runAll_cons, ih]

end

/-- The shape is one part of a sequence. -/
def IsPart (a : Shape) : Prop := a.parts = [a]

/-- No two literals stand side by side. -/
def Joined : List Shape → Prop
  | literal _ :: literal _ :: _ => False
  | _ :: as => Joined as
  | [] => True

theorem joined_tail {a : Shape} {as : List Shape} (h : Joined (a :: as)) : Joined as := by
  cases as with
  | nil => trivial
  | cons b as =>
    unfold Joined at h
    split at h
    · exact h.elim
    · rename_i heq
      cases heq
      exact h
    · contradiction

theorem consPart_of_joined {a : Shape} {as : List Shape} (h : Joined (a :: as)) : consPart a as = a :: as := by
  unfold consPart
  split
  · simp [Joined] at h
  · rfl

theorem foldr_of_joined : ∀ {as : List Shape}, Joined as → as.foldr consPart [] = as
  | [], _ => rfl
  | a :: as, h => by rw [List.foldr_cons, foldr_of_joined (joined_tail h), consPart_of_joined h]

theorem joined_consPart {a : Shape} {as : List Shape} (h : Joined as) : Joined (consPart a as) := by
  unfold consPart
  split
  · rename_i cs ds rest
    cases rest with
    | nil => trivial
    | cons b rest =>
      unfold Joined at h ⊢
      cases b <;> simp_all
  · rename_i hno
    cases as with
    | nil => cases a <;> trivial
    | cons b as =>
      unfold Joined
      split
      · rename_i heq
        cases heq
        exact hno _ _ _ rfl rfl
      · rename_i heq
        cases heq
        exact h
      · trivial

theorem joined_foldr (as : List Shape) : Joined (as.foldr consPart []) := by
  induction as with
  | nil => trivial
  | cons a as ih => exact joined_consPart ih

theorem isPart_consPart {a : Shape} {as : List Shape} (ha : a.IsPart) (has : ∀ b ∈ as, b.IsPart) :
    ∀ b ∈ consPart a as, b.IsPart := by
  unfold consPart
  split
  · intro b hb
    rcases List.mem_cons.1 hb with rfl | hb
    · rfl
    · exact has b (by simp [hb])
  · intro b hb
    rcases List.mem_cons.1 hb with rfl | hb
    · exact ha
    · exact has b hb

theorem isPart_foldr {as : List Shape} (has : ∀ a ∈ as, a.IsPart) : ∀ b ∈ as.foldr consPart [], b.IsPart := by
  induction as with
  | nil => simp
  | cons a as ih => exact isPart_consPart (has a (by simp)) (ih fun b hb => has b (by simp [hb]))

theorem parts_ofParts {as : List Shape} (has : ∀ a ∈ as, a.IsPart) : (ofParts as).parts = as := by
  induction as with
  | nil => rfl
  | cons a as ih =>
    cases as with
    | nil => exact has a (by simp)
    | cons b as =>
      have ha : a.parts = [a] := has a (by simp)
      simp only [ofParts, parts] at ih ⊢
      rw [ha, ih fun c hc => has c (by simp [hc])]
      rfl

end Shape

/-! ## Written sequences -/

/-- An element of a written sequence: it leaves the settings alone, and its shape is one part. -/
structure Ast.IsElement (a : Ast) : Prop where
  keeps : (a.toBranches {}).2 = {}
  isPart : a.toShape.IsPart

theorem keeps_sequence : ∀ {as : List Ast}, (∀ a ∈ as, a.IsElement) → ((Ast.sequence as).toBranches {}).2 = {}
  | [], _ => rfl
  | [a], h => (h a (by simp)).keeps
  | a :: b :: as, h => by
    have ha := (h a (by simp)).keeps
    have ih : ((Ast.sequence (b :: as)).toBranches {}).2 = {} := keeps_sequence fun c hc => h c (by simp [hc])
    simp only [Ast.sequence, Ast.toBranches]
    rw [ha]
    exact ih

/-- **The shape of a sequence**: the shapes of its elements, with the characters joined. -/
theorem toShape_sequence : ∀ {as : List Ast}, (∀ a ∈ as, a.IsElement) →
    (Ast.sequence as).toShape = Shape.ofParts ((as.map Ast.toShape).foldr Shape.consPart [])
  | [], _ => rfl
  | [a], _ => by simp [Ast.sequence, Shape.consPart, Shape.ofParts]
  | a :: b :: as, h => by
    have ha := h a (by simp)
    have hrest : ∀ c ∈ b :: as, c.IsElement := fun c hc => h c (by simp [hc])
    have ih := toShape_sequence hrest
    have hparts : ∀ s ∈ ((b :: as).map Ast.toShape).foldr Shape.consPart [], s.IsPart := by
      refine Shape.isPart_foldr fun s hs => ?_
      obtain ⟨c, hc, rfl⟩ := List.mem_map.1 hs
      exact (hrest c hc).isPart
    have hcat : (Ast.sequence (a :: b :: as)).toShape =
        Shape.sequence [a.toShape, (Ast.sequence (b :: as)).toShape] := by
      simp only [Ast.sequence, Ast.toShape, Ast.toBranches, Shape.choice]
      rw [ha.keeps]
    rw [hcat, ih, Shape.sequence, List.flatMap_cons, List.flatMap_cons, List.flatMap_nil, List.append_nil,
      Shape.parts_ofParts hparts, show a.toShape.parts = [a.toShape] from ha.isPart, List.singleton_append,
      List.foldr_cons, Shape.foldr_of_joined (Shape.joined_foldr _), List.map_cons (l := b :: as), List.foldr_cons]

/-- **What a sequence matches**: what its elements match one after the other. -/
theorem run_sequence {text : Array Char} {as : List Ast} (has : ∀ a ∈ as, a.IsElement) {i j : Nat} {ms : Marks} :
    Run text (ofAst (Ast.sequence as)) i j ms ↔ RunAll text (as.map ofAst) i j ms := by
  rw [ofAst, toShape_sequence has, Shape.run_ofParts, Shape.run_joined, List.map_map]
  rfl

end Diagnostics.Regex
