import Diagnostics.Proofs.Regex.Spelling
import Diagnostics.Proofs.Template.Reading

/-!
# The texts of a template

A template stands for the texts that are put together from a text of each of its parts (`Template.Spells`): a
character stands for itself, a temporary name for any temporary name, a number for digits of any script. The
elements that its source is read as match these texts and no others (`spellsAll_elements`).
-/

namespace Diagnostics

open Regex (Ast ClassItem SpellsAll)

/-! ## Sets of more than one member -/

namespace Regex

/-- One or more characters of a bracket that stands for more than one. -/
theorem ofAst_many {negated greedy : Bool} {item : ClassItem}
    (h : (Settings.close {} negated (item.toSet {})).onlyMember? = none) :
    (Ast.repeated 1 none greedy (.bracket negated item)).toShape =
      .repeated 1 none greedy (.set (Settings.close {} negated (item.toSet {}))) := by
  simp only [Ast.toShape, Ast.toBranches, Shape.choice, Shape.ofSet, h]
  cases greedy <;> rfl

theorem isElement_many {negated greedy : Bool} {item : ClassItem}
    (h : (Settings.close {} negated (item.toSet {})).onlyMember? = none) :
    (Ast.repeated 1 none greedy (.bracket negated item)).IsElement := by
  refine ⟨rfl, ?_⟩
  rw [ofAst_many h]
  rfl

theorem spells_many (negated greedy : Bool) (item : ClassItem)
    (h : (Settings.close {} negated (item.toSet {})).onlyMember? = none) :
    Spells (ofAst (.repeated 1 none greedy (.bracket negated item))) fun w =>
      w ≠ [] ∧ ∀ c ∈ w, (Settings.close {} negated (item.toSet {})).contains c = true := by
  rw [ofAst, ofAst_many h]
  exact spells_plus greedy (spells_char _)

theorem isElement_char (c : Char) : (Ast.char c).IsElement := ⟨rfl, rfl⟩

theorem spells_char_ast (c : Char) : Spells (ofAst (.char c)) fun w => w = [c] := spells_single c

/-- A text is spelled character by character. -/
theorem spellsAll_chars : ∀ cs : List Char, SpellsAll ((cs.map Ast.char).map ofAst) fun w => w = cs
  | [] => spellsAll_nil
  | c :: cs => by
    refine spellsAll_congr (spellsAll_append (spellsAll_singleton (spells_char_ast c)) (spellsAll_chars cs)) ?_
    intro w
    constructor
    · rintro ⟨u, v, rfl, rfl, rfl⟩; rfl
    · rintro rfl; exact ⟨[c], cs, rfl, rfl, rfl⟩

end Regex

/-! ## Parts -/

namespace Part

/-- The texts that a part stands for. -/
def Spells : Part → List Char → Prop
  | char c, w => w = [c]
  | tempName, w => ∃ v, w = 't' :: 'm' :: 'p' :: v ∧ v ≠ [] ∧ ∀ c ∈ v, Rewrite.isTempChar c = true
  | number, w => w ≠ [] ∧ ∀ c ∈ w, Unicode.isDigit c = true
  | stem, w => w ≠ [] ∧ ∀ c ∈ w, Unicode.isSpace c = false
  | anything, _ => True

theorem onlyMember?_temp : (Regex.Settings.close {} false (tempItem.toSet {})).onlyMember? = none := by
  have hcovers (n : Nat) (h : 65 ≤ n ∧ n ≤ 90) :
      (Regex.Settings.close {} false (tempItem.toSet {})).spans.covers n = true := by
    simp only [Regex.Settings.close_default, Regex.Settings.negateIf_default, tempItem, Regex.ClassItem.toSet,
      Bool.false_eq_true, if_false, CharSet.covers_union, CharSet.covers_span, Bool.or_eq_true, Bool.and_eq_true,
      decide_eq_true_eq]
    exact .inl h
  exact CharSet.onlyMember?_eq_none (hcovers 65 (by omega)) (hcovers 66 (by omega)) (by omega)

theorem contains_temp (c : Char) :
    (Regex.Settings.close {} false (tempItem.toSet {})).contains c = Rewrite.isTempChar c := by
  have hspan (a b : Char) : (CharSet.span a b).contains c = (decide (a ≤ c) && decide (c ≤ b)) := rfl
  have hletter : c.isAlpha = (decide ('A' ≤ c ∧ c ≤ 'Z') || (decide ('a' ≤ c) && decide (c ≤ 'z'))) := rfl
  simp only [Regex.Settings.close_default, Regex.Settings.negateIf_default, tempItem, Regex.ClassItem.toSet,
    Bool.false_eq_true, if_false, CharSet.contains_union, CharSet.contains_single, hspan, Rewrite.isTempChar, hletter,
    Bool.decide_and, Bool.or_assoc]
  rw [Bool.beq_comm (a := '_')]
  rfl

theorem isElement_elements (p : Part) : ∀ a ∈ p.elements, a.IsElement := by
  cases p with
  | char c => simp only [elements, List.mem_singleton, forall_eq]; exact Regex.isElement_char c
  | tempName =>
    simp only [elements, List.mem_cons, List.not_mem_nil, or_false, forall_eq_or_imp, forall_eq]
    exact ⟨Regex.isElement_char _, Regex.isElement_char _, Regex.isElement_char _,
      Regex.isElement_many onlyMember?_temp⟩
  | number =>
    simp only [elements, List.mem_singleton, forall_eq]
    exact Regex.isElement_many (by decide +kernel)
  | stem =>
    simp only [elements, List.mem_singleton, forall_eq]
    exact Regex.isElement_many (by decide +kernel)
  | anything => simp only [elements, List.mem_singleton, forall_eq]; exact ⟨rfl, rfl⟩

/-- **What the source of a part matches** is what the part stands for. -/
theorem spellsAll_elements (p : Part) : SpellsAll (p.elements.map Regex.ofAst) p.Spells := by
  cases p with
  | char c => exact Regex.spellsAll_singleton (Regex.spells_char_ast c)
  | tempName =>
    have hmany := Regex.spells_many _ true _ onlyMember?_temp
    simp only [contains_temp] at hmany
    refine Regex.spellsAll_congr (Regex.spellsAll_append (Regex.spellsAll_chars ['t', 'm', 'p'])
      (Regex.spellsAll_singleton hmany)) fun w => ?_
    constructor
    · rintro ⟨u, v, rfl, rfl, hv⟩; exact ⟨v, rfl, hv⟩
    · rintro ⟨v, rfl, hv⟩; exact ⟨_, v, rfl, rfl, hv⟩
  | number => exact Regex.spellsAll_singleton (Regex.spells_many _ true _ (by decide +kernel))
  | stem =>
    refine Regex.spellsAll_congr (Regex.spellsAll_singleton
      (Regex.spells_many true false (.letter .space false) (by decide +kernel)))
      fun w => ?_
    refine and_congr_right fun _ => forall₂_congr fun c _ => ?_
    show (!Unicode.isSpace c) = true ↔ _
    simp
  | anything =>
    refine Regex.spellsAll_congr (Regex.spellsAll_singleton (Regex.spells_star (Regex.spells_char .any))) fun w => ?_
    simp [Spells, CharSet.contains]

end Part

/-! ## Templates -/

namespace Template

/-- The texts that a template stands for: one text of each part after the other. -/
inductive Spells : Template → List Char → Prop
  | nil : Spells [] []
  | cons {p : Part} {t : Template} {v w : List Char} (hp : p.Spells v) (ht : Spells t w) : Spells (p :: t) (v ++ w)

theorem spells_nil {w : List Char} : Spells [] w ↔ w = [] := by
  constructor
  · rintro ⟨⟩; rfl
  · rintro rfl; exact .nil

theorem spells_cons {p : Part} {t : Template} {w : List Char} :
    Spells (p :: t) w ↔ ∃ u v, w = u ++ v ∧ p.Spells u ∧ Spells t v := by
  constructor
  · rintro (_ | ⟨hp, ht⟩); exact ⟨_, _, rfl, hp, ht⟩
  · rintro ⟨u, v, rfl, hp, ht⟩; exact .cons hp ht

theorem spells_append {s t : Template} {w : List Char} :
    Spells (s ++ t) w ↔ ∃ u v, w = u ++ v ∧ Spells s u ∧ Spells t v := by
  induction s generalizing w with
  | nil =>
    simp only [List.nil_append, spells_nil]
    constructor
    · exact fun h => ⟨[], w, rfl, rfl, h⟩
    · rintro ⟨_, v, rfl, rfl, h⟩; exact h
  | cons p s ih =>
    simp only [List.cons_append, spells_cons, ih]
    constructor
    · rintro ⟨u, _, rfl, hp, v, w, rfl, hs, ht⟩
      exact ⟨u ++ v, w, by simp, ⟨u, v, rfl, hp, hs⟩, ht⟩
    · rintro ⟨_, w, rfl, ⟨u, v, rfl, hp, hs⟩, ht⟩
      exact ⟨u, v ++ w, by simp, hp, v, w, rfl, hs, ht⟩

theorem isElement_elements (t : Template) : ∀ a ∈ t.elements, a.IsElement := by
  intro a ha
  obtain ⟨p, -, hp⟩ := mem_elements ha
  exact p.isElement_elements a hp

theorem spellsAll_elements (t : Template) : SpellsAll (t.elements.map Regex.ofAst) t.Spells := by
  induction t with
  | nil => exact Regex.spellsAll_congr Regex.spellsAll_nil fun w => spells_nil.symm
  | cons p t ih =>
    rw [elements, List.flatMap_cons, List.map_append]
    exact Regex.spellsAll_congr (Regex.spellsAll_append p.spellsAll_elements ih) fun w => spells_cons.symm

/-- **What the source of a template matches** is what the template stands for. -/
theorem spells_sequence (t : Template) : Regex.Spells (Regex.ofAst (Ast.sequence t.elements)) t.Spells :=
  fun text i j ms => (Regex.run_sequence t.isElement_elements).trans (t.spellsAll_elements text i j ms)

end Template

end Diagnostics
