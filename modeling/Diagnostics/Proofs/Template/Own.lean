import Diagnostics.Proofs.Template.Language
import Diagnostics.Proofs.Text.Find

/-!
# A template stands for its own text

Every step that opens a part of a template keeps the texts it stood for before: a run of characters is replaced by
a part that spells it. So the template of a text spells that text, whatever its family leaves open
(`spells_ofBody`).
-/

namespace Diagnostics.Template

open Rewrite (isTempChar unsatisfiedHeader unsatisfiedFooter unsatisfiableHeader)

theorem spells_literal {cs w : List Char} : Spells (literal cs) w ↔ w = cs := by
  induction cs generalizing w with
  | nil => exact spells_nil
  | cons c cs ih =>
    rw [literal, List.map_cons, spells_cons]
    constructor
    · rintro ⟨u, v, rfl, rfl, hv⟩
      rw [ih.1 hv, List.singleton_append]
    · rintro rfl
      exact ⟨[c], cs, rfl, rfl, ih.2 rfl⟩

theorem spells_char_cons {c : Char} {t : Template} {w : List Char} :
    Spells (.char c :: t) w ↔ ∃ v, w = c :: v ∧ Spells t v := by
  rw [spells_cons]
  constructor
  · rintro ⟨_, v, rfl, rfl, ht⟩; exact ⟨v, rfl, ht⟩
  · rintro ⟨v, rfl, ht⟩; exact ⟨[c], v, rfl, rfl, ht⟩

/-- What a run of characters of one kind spells is of that kind. -/
theorem all_of_spells_takeWhile {p : Char → Bool} {t : Template} {w : List Char}
    (h : Spells (t.takeWhile (Part.isChar p)) w) : ∀ c ∈ w, p c = true := by
  induction t generalizing w with
  | nil => rw [spells_nil.1 h]; simp
  | cons part t ih =>
    rw [List.takeWhile_cons] at h
    split at h
    · rename_i hpart
      cases part with
      | char c =>
        obtain ⟨v, rfl, hv⟩ := spells_char_cons.1 h
        intro d hd
        rcases List.mem_cons.1 hd with rfl | hd
        · exact hpart
        · exact ih hv d hd
      | tempName => cases hpart
      | number => cases hpart
      | stem => cases hpart
      | anything => cases hpart
    · rw [spells_nil.1 h]; simp

/-- A template is a run of characters of one kind and the rest after it. -/
theorem spells_split_run {p : Char → Bool} {t : Template} {w : List Char} (h : Spells t w) :
    ∃ u v, w = u ++ v ∧ (∀ c ∈ u, p c = true) ∧ Spells (t.dropWhile (Part.isChar p)) v := by
  rw [← List.takeWhile_append_dropWhile (p := Part.isChar p) (l := t), spells_append] at h
  obtain ⟨u, v, rfl, hu, hv⟩ := h
  exact ⟨u, v, rfl, all_of_spells_takeWhile hu, hv⟩

/-! ## Names and numbers -/

/-- Opening the temporary names loses no text. -/
theorem spells_openTempNames {t : Template} {w : List Char} (h : Spells t w) : Spells (openTempNames t) w := by
  induction t using openTempNames.induct generalizing w with
  | case1 => rw [openTempNames]; exact h
  | case2 c rest hc ih =>
    simp only [spells_char_cons] at h
    obtain ⟨_, rfl, _, rfl, _, rfl, w, rfl, hw⟩ := h
    obtain ⟨u, v, rfl, hu, hv⟩ := spells_split_run (p := isTempChar) hw
    rw [openTempNames, if_pos hc, spells_cons]
    refine ⟨'t' :: 'm' :: 'p' :: c :: u, v, rfl, ⟨c :: u, rfl, by simp, fun d hd => ?_⟩, ih hv⟩
    rcases List.mem_cons.1 hd with rfl | hd
    · exact hc
    · exact hu d hd
  | case3 c rest hc ih =>
    obtain ⟨v, rfl, hv⟩ := spells_char_cons.1 h
    rw [openTempNames, if_neg hc, spells_char_cons]
    exact ⟨v, rfl, ih hv⟩
  | case4 part rest hno ih =>
    rw [openTempNames]
    · obtain ⟨u, v, rfl, hp, h⟩ := spells_cons.1 h
      exact spells_cons.2 ⟨u, v, rfl, hp, ih h⟩
    · exact hno

theorem isDigit_of_ascii {c : Char} (h : c.isDigit = true) : Unicode.isDigit c = true := by
  have hrange : 48 ≤ c.toNat ∧ c.toNat ≤ 57 := by simpa [Char.isDigit, UInt32.le_iff_toNat_le] using h
  simp [Unicode.isDigit, Unicode.decimalDigits, Unicode.Ranges.contains, hrange.2, Nat.not_lt.2 hrange.1]

/-- Opening the numbers loses no text. -/
theorem spells_openNumbers {t : Template} {w : List Char} (h : Spells t w) : Spells (openNumbers t) w := by
  induction t using openNumbers.induct generalizing w with
  | case1 => rw [openNumbers]; exact h
  | case2 c rest hc ih =>
    obtain ⟨w, rfl, hw⟩ := spells_char_cons.1 h
    obtain ⟨u, v, rfl, hu, hv⟩ := spells_split_run (p := Char.isDigit) hw
    rw [openNumbers, if_pos hc, spells_cons]
    refine ⟨c :: u, v, rfl, ⟨by simp, fun d hd => ?_⟩, ih hv⟩
    rcases List.mem_cons.1 hd with rfl | hd
    · exact isDigit_of_ascii hc
    · exact isDigit_of_ascii (hu d hd)
  | case3 c rest hc ih =>
    obtain ⟨v, rfl, hv⟩ := spells_char_cons.1 h
    rw [openNumbers, if_neg hc, spells_char_cons]
    exact ⟨v, rfl, ih hv⟩
  | case4 part rest hno ih =>
    rw [openNumbers]
    · obtain ⟨u, v, rfl, hp, h⟩ := spells_cons.1 h
      exact spells_cons.2 ⟨u, v, rfl, hp, ih h⟩
    · exact hno

/-! ## Families -/

/-- The stem of a word is what stands before its dot; where the dot may not come first it is not empty. -/
theorem afterStem?_eq_some {first : Bool} {word rest : List Char} (h : afterStem? first word = some rest) :
    ∃ stem, word = stem ++ rest ∧ (first = true → stem ≠ []) := by
  induction word generalizing first with
  | nil => cases first <;> cases h
  | cons c word ih =>
    rw [afterStem?] at h
    split at h
    · rename_i hdot
      obtain rfl := Option.some.inj h
      refine ⟨[], rfl, fun hfirst => ?_⟩
      simp [hfirst] at hdot
    · obtain ⟨stem, hword, -⟩ := ih h
      exact ⟨c :: stem, by rw [hword, List.cons_append], fun _ => by simp⟩

theorem spells_openStem {word : List Char} (hword : ∀ c ∈ word, Unicode.isSpace c = false) :
    Spells (openStem word) word := by
  unfold openStem
  split
  · rename_i rest h
    obtain ⟨stem, rfl, hne⟩ := afterStem?_eq_some h
    exact .cons ⟨hne rfl, fun c hc => hword c (by simp [hc])⟩ (spells_literal.2 rfl)
  · exact spells_literal.2 rfl

/-- Opening the stems loses no text; `word` are the characters that have been read of the word at hand. -/
theorem spells_openStemsFrom (cs : List Char) : ∀ word : List Char, (∀ c ∈ word, Unicode.isSpace c = false) →
    Spells (openStemsFrom word cs) (word.reverse ++ cs) := by
  induction cs with
  | nil =>
    intro word hword
    rw [openStemsFrom, List.append_nil]
    exact spells_openStem (by simpa using hword)
  | cons c cs ih =>
    intro word hword
    rw [openStemsFrom]
    split
    · refine spells_append.2 ⟨word.reverse, c :: cs, rfl, spells_openStem (by simpa using hword), ?_⟩
      exact spells_char_cons.2 ⟨cs, rfl, ih [] (by simp)⟩
    · rename_i hc
      have hword' : ∀ d ∈ c :: word, Unicode.isSpace d = false := by
        intro d hd
        rcases List.mem_cons.1 hd with rfl | hd
        · simpa using hc
        · exact hword d hd
      simpa using ih _ hword'

theorem spells_openStems (cs : List Char) : Spells (openStems cs) cs :=
  spells_openStemsFrom cs [] (by simp)

theorem spells_anything (w : List Char) : Spells [.anything] w := by
  simpa using Spells.cons (p := .anything) (v := w) trivial .nil

/-- The explanation that is cut off stood after what is kept. -/
theorem cutExplanation_spec (cs : List Char) :
    ∃ rest, cs = (cutExplanation cs).1 ++ rest ∧ ((cutExplanation cs).2 = false → rest = []) := by
  unfold cutExplanation
  split
  · exact ⟨[], by simp, fun _ => rfl⟩
  · rename_i before after hphrase
    split
    · exact ⟨[], by simp, fun _ => rfl⟩
    · rename_i between rest hbecause
      refine ⟨rest, ?_, by simp⟩
      rw [cutAtFirst?_eq_some hphrase, cutAtFirst?_eq_some hbecause]
      simp only [List.append_assoc]

theorem spells_ofUniverse (cs : List Char) : Spells (ofUniverse cs) cs := by
  obtain ⟨rest, hcs, hrest⟩ := cutExplanation_spec cs
  unfold ofUniverse
  generalize cutExplanation cs = kept at hcs hrest ⊢
  obtain ⟨kept, cut⟩ := kept
  rw [hcs]
  refine spells_append.2 ⟨kept, rest, rfl, spells_openStems kept, ?_⟩
  cases cut with
  | true => exact spells_anything rest
  | false => rw [hrest rfl]; exact .nil

theorem spells_ofUnsatisfied (cs : List Char) : Spells (ofUnsatisfied cs) cs := by
  unfold ofUnsatisfied
  split
  · exact spells_literal.2 rfl
  · rename_i before after hheader
    split
    · exact spells_literal.2 rfl
    · rename_i between rest hfooter
      have hcs : cs = (before ++ unsatisfiedHeader.toList) ++ (between ++ (unsatisfiedFooter.toList ++ rest)) := by
        rw [cutAtFirst?_eq_some hheader, cutAtLast?_eq_some hfooter]
        simp only [List.append_assoc]
      rw [hcs]
      refine spells_append.2 ⟨_, _, rfl, spells_literal.2 rfl, ?_⟩
      exact .cons trivial (spells_literal.2 rfl)

theorem spells_ofUnsatisfiable (cs : List Char) : Spells (ofUnsatisfiable cs) cs := by
  unfold ofUnsatisfiable
  split
  · exact spells_literal.2 rfl
  · rename_i before rest hheader
    have hcs : cs = (before ++ unsatisfiableHeader.toList) ++ rest := by
      rw [cutAtFirst?_eq_some hheader, List.append_assoc]
    rw [hcs]
    exact spells_append.2 ⟨_, _, rfl, spells_literal.2 rfl, spells_anything rest⟩

theorem spells_ofFamily (family : DiagnosticFamily) (cs : List Char) : Spells (ofFamily family cs) cs := by
  cases family with
  | universeInconsistency => exact spells_ofUniverse cs
  | unsatisfiedConstraints => exact spells_ofUnsatisfied cs
  | unsatisfiableConstraints => exact spells_ofUnsatisfiable cs
  | other => exact spells_literal.2 rfl

/-- **The template of a text stands for that text.** -/
theorem spells_ofBody (body : String) : Spells (ofBody body) body.toList := by
  have h := spells_openTempNames (spells_ofFamily (DiagnosticFamily.classify body) body.toList)
  simp only [ofBody]
  split
  · exact h
  · exact spells_openNumbers h

end Diagnostics.Template
