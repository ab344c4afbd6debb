import Diagnostics.Proofs.Generalize.OwnOutput
import Diagnostics.Proofs.Template.Seam

/-!
# One pattern for a class of errors

Two runs of a program that fail in the same way print texts that differ in names of temporary files and in numbers
(`Template.Alike`). Such texts are cut into names, numbers and other characters in the same way, so their templates are
the same, and the outputs are generalized to the same pattern, whatever stands around the texts
(`generalize_eq_of_alike`).
-/

namespace Diagnostics

open Rewrite (instancePhrase isTempChar)
open ErrorPattern (First)

namespace Template

/-- The second text is the first with other temporary names and other numbers, written with the digits 0 to 9. -/
inductive Alike : List Char → List Char → Prop
  | nil : Alike [] []
  | name {n n' b w : List Char} (hn : IsTempName n) (hend : Ends isTempChar b) (hn' : IsTempName n') (h : Alike b w) :
    Alike (n ++ b) (n' ++ w)
  | number {d d' b w : List Char} (hd : IsDigits d) (hend : Ends Char.isDigit b) (hd' : IsDigits d') (h : Alike b w) :
    Alike (d ++ b) (d' ++ w)
  | char {c : Char} {b w : List Char} (hname : NoName (c :: b)) (hdigit : c.isDigit = false) (h : Alike b w) :
    Alike (c :: b) (c :: w)

/-! ## Both texts are cut in the same places -/

theorem isTempChar_of_isDigit (c : Char) (h : c.isDigit = true) : isTempChar c = true := by
  rw [isTempChar, isDigit_of_ascii h, Bool.or_true]

namespace Alike

variable {b w : List Char}

/-- The texts begin with the same character, or each with a digit. -/
theorem head (h : Alike b w) : b.head? = w.head? ∨
    ∃ c d, b.head? = some c ∧ w.head? = some d ∧ c.isDigit = true ∧ d.isDigit = true := by
  cases h with
  | nil => exact .inl rfl
  | name hn _ hn' _ =>
    obtain ⟨u, rfl, -⟩ := hn
    obtain ⟨u', rfl, -⟩ := hn'
    exact .inl rfl
  | @number d d' _ _ hd _ hd' _ =>
    obtain ⟨hne, hd⟩ := hd
    obtain ⟨hne', hd'⟩ := hd'
    cases d with
    | nil => exact absurd rfl hne
    | cons c d =>
      cases d' with
      | nil => exact absurd rfl hne'
      | cons c' d' => exact .inr ⟨c, c', rfl, rfl, hd c List.mem_cons_self, hd' c' List.mem_cons_self⟩
  | char => exact .inl rfl

/-- A run of a kind that digits are of ends in front of both texts or in front of neither. -/
theorem ends {p : Char → Bool} (hp : ∀ c, c.isDigit = true → p c = true) (h : Alike b w) (hb : Ends p b) : Ends p w := by
  rcases h.head with heq | ⟨c, _, hc, -, hdigit, -⟩
  · intro c hc
    exact hb c (heq.trans hc)
  · exact absurd (hb c hc) (by simp [hp c hdigit])

/-- A character that is no digit and begins no name stands in front of both texts. -/
theorem tail {c : Char} (hc : c.isDigit = false) (ht : c ≠ 't') (h : Alike b (c :: w)) :
    ∃ b', b = c :: b' ∧ Alike b' w := by
  generalize hv : c :: w = v at h
  cases h with
  | nil => cases hv
  | name _ _ hn' =>
    obtain ⟨u, rfl, -⟩ := hn'
    exact absurd (List.cons.inj hv).1 ht
  | @number _ d' _ _ _ _ hd' =>
    obtain ⟨hne, hd'⟩ := hd'
    cases d' with
    | nil => exact absurd rfl hne
    | cons d d' =>
      obtain ⟨rfl, -⟩ := List.cons.inj hv
      rw [hd' c List.mem_cons_self] at hc
      cases hc
  | char _ _ h =>
    obtain ⟨rfl, rfl⟩ := List.cons.inj hv
    exact ⟨_, rfl, h⟩

/-- Changing names and numbers makes no new name. -/
theorem noName {c : Char} (h : Alike b w) (hb : NoName (c :: b)) : NoName (c :: w) := by
  rintro n x ⟨u, rfl, hne, hu⟩ heq
  obtain ⟨rfl, rfl⟩ := List.cons.inj heq
  obtain ⟨b, rfl, hm⟩ := h.tail (by decide) (by decide)
  obtain ⟨b, rfl, hp⟩ := hm.tail (by decide) (by decide)
  cases u with
  | nil => exact hne rfl
  | cons e u =>
    by_cases hends : Ends isTempChar b
    · have he := hp.ends isTempChar_of_isDigit hends e rfl
      rw [hu e List.mem_cons_self] at he
      cases he
    · -- the first text has a character of a name at this place, so a name would begin there
      simp only [Ends, not_forall, Bool.not_eq_false] at hends
      obtain ⟨f, hf, htemp⟩ := hends
      obtain ⟨b', rfl⟩ := List.head?_eq_some_iff.1 hf
      exact hb ['t', 'm', 'p', f] b' ⟨[f], rfl, by simp, by simpa using htemp⟩ rfl

/-- **Texts that are alike have the same template.** -/
theorem openNumbers_eq (h : Alike b w) :
    openNumbers (openTempNames (literal b)) = openNumbers (openTempNames (literal w)) := by
  induction h with
  | nil => rfl
  | name hn hend hn' h ih =>
    rw [openTempNames_name hn hend, openTempNames_name hn' (h.ends isTempChar_of_isDigit hend), openNumbers_cons rfl,
      openNumbers_cons rfl, ih]
  | number hd hend hd' h ih =>
    rw [openNumbers_digits hd hend, openNumbers_digits hd' (h.ends (fun _ => id) hend), ih]
  | char hname hdigit h ih =>
    rw [openTempNames_char hname, openTempNames_char (h.noName hname), openNumbers_char hdigit, openNumbers_char hdigit,
      ih]

end Alike

/-! ## Neither text is about its numbers -/

/-- A text without digits stays as it is. -/
theorem openNumbers_plain {cs : List Char} (h : ∀ c ∈ cs, c.isDigit = false) (t : Template) :
    openNumbers (literal cs ++ t) = literal cs ++ openNumbers t := by
  induction cs with
  | nil => rfl
  | cons c cs ih =>
    show openNumbers (.char c :: (literal cs ++ t)) = _
    rw [openNumbers_char (h c List.mem_cons_self), ih fun d hd => h d (List.mem_cons_of_mem c hd)]
    rfl

/-- Where the numbers of a template matter, the phrase that says so stands in every text of it, other numbers or not. -/
theorem phrase_infix_of_keepsNumbers {t : Template} (ht : t.keepsNumbers = true) {w : List Char}
    (hw : Spells (openNumbers t) w) : instancePhrase.toList <:+: w := by
  obtain ⟨x, y, rfl⟩ := occursIn_iff.1 ht
  have hdigits : ∀ c ∈ instancePhrase.toList, c.isDigit = false := by simp [instancePhrase]
  have hfirst : Part.isChar Char.isDigit (.char 'U') = false := by decide
  have hseam : Closed Char.isDigit (literal instancePhrase.toList ++ y) := closed_cons hfirst _
  rw [List.append_assoc, openNumbers_append hseam, openNumbers_plain hdigits] at hw
  exact infix_of_spells ⟨_, _, by rw [List.append_assoc]⟩ hw

/-- The template of an error that is not about its numbers. -/
theorem ofBody_eq_openNumbers {b : String} (hb : DiagnosticFamily.classify b = .other) {w : List Char}
    (hw : Spells (openNumbers (openTempNames (literal b.toList))) w) (hphrase : ¬ instancePhrase.toList <:+: w) :
    ofBody b = openNumbers (openTempNames (literal b.toList)) := by
  have hnumbers : ¬ (openTempNames (literal b.toList)).keepsNumbers = true :=
    fun hkeep => hphrase (phrase_infix_of_keepsNumbers hkeep hw)
  simp only [ofBody, hb, ofFamily, if_neg hnumbers]

end Template

/-! ## The pattern -/

open Template (Alike Spells literal openTempNames openNumbers)

/-- **Texts that are alike have the same pattern**, unless they are about their numbers. -/
theorem generalizeBody_eq_of_alike {b₁ b₂ : String} (h₁ : DiagnosticFamily.classify b₁ = .other)
    (h₂ : DiagnosticFamily.classify b₂ = .other) (hphrase : ¬ instancePhrase.toList <:+: b₁.toList)
    (h : Alike b₁.toList b₂.toList) : generalizeBody b₁ = generalizeBody b₂ := by
  have hown : Spells (openNumbers (openTempNames (literal b₁.toList))) b₁.toList :=
    Template.spells_openNumbers (Template.spells_openTempNames (Template.spells_literal.2 rfl))
  rw [Template.generalizeBody_eq, Template.generalizeBody_eq, Template.ofBody_eq_openNumbers h₁ hown hphrase,
    Template.ofBody_eq_openNumbers h₂ (h.openNumbers_eq ▸ hown) hphrase, h.openNumbers_eq]

/-- **Generalization is canonical.** The errors that the default pattern finds in two outputs may differ in names and
numbers, in their headers and in the white space around them: if they are of no special family, and not about the
length of a universe instance, the two outputs are generalized to one pattern. Only for long texts may there be no
pattern, as it would be too large, and then for both the same. -/
theorem generalize_eq_of_alike (o₁ o₂ : String) (ho₁ : ErrorPattern.default.hasError o₁ = true)
    (ho₂ : ErrorPattern.default.hasError o₂ = true) :
    ∃ body₁ body₂, ErrorPattern.default.errorBody o₁ = .ok body₁ ∧ ErrorPattern.default.errorBody o₂ = .ok body₂ ∧
      (DiagnosticFamily.classify (Unicode.trim body₁) = .other →
        DiagnosticFamily.classify (Unicode.trim body₂) = .other →
        ¬ instancePhrase.toList <:+: (Unicode.trim body₁).toList →
        Alike (Unicode.trim body₁).toList (Unicode.trim body₂).toList →
          (∃ p, generalize o₁ = .ok p ∧ generalize o₂ = .ok p) ∨
            100000 < (Unicode.trim body₁).length ∧ 100000 < (Unicode.trim body₂).length ∧
              ∃ source, generalize o₁ = .error (.invalidPattern source .tooLarge) ∧
                generalize o₂ = .error (.invalidPattern source .tooLarge)) := by
  obtain ⟨-, -, body₁, -, -, hbody₁⟩ := ErrorPattern.default_find ho₁
  obtain ⟨-, -, body₂, -, -, hbody₂⟩ := ErrorPattern.default_find ho₂
  refine ⟨_, _, hbody₁, hbody₂, fun h₁ h₂ hphrase h => ?_⟩
  have heq := generalizeBody_eq_of_alike h₁ h₂ hphrase h
  rw [generalize_eq hbody₁, generalize_eq hbody₂, ← heq]
  rcases Template.ofBody_cases (Unicode.trim (String.ofList body₁)) with ⟨p, hp, -⟩ | ⟨hlength₁, source, hsource⟩
  · exact .inl ⟨p, hp, hp⟩
  · refine .inr ⟨hlength₁, ?_, source, hsource, hsource⟩
    rcases Template.ofBody_cases (Unicode.trim (String.ofList body₂)) with ⟨p, hp, -⟩ | ⟨hlength₂, -⟩
    · rw [← heq, hsource] at hp
      cases hp
    · exact hlength₂

/-- The same error on another line of another file, with white space in front. -/
theorem generalize_eq_of_alike_spaced :
    ErrorPattern.default.hasError "File \"a.v\", line 7, characters 0-1:\nBad tmpab 12\n" = true ∧
    ErrorPattern.default.hasError "File \"b/c.v\", line 40, characters 2-3:\n  Bad tmp_9 7" = true ∧
    ∃ p, generalize "File \"a.v\", line 7, characters 0-1:\nBad tmpab 12\n" = .ok p ∧
      generalize "File \"b/c.v\", line 40, characters 2-3:\n  Bad tmp_9 7" = .ok p := by
  have hf₁ : First (· ≠ []) "File \"a.v\", line 7, characters 0-1:\nBad tmpab 12\n".toList []
      ⟨"a.v".toList, "7".toList, "0-1".toList, by decide, by simp, by decide, by simp, by decide, by simp⟩
      "Bad tmpab 12\n".toList [] :=
    { split := by decide, body := by decide, le := fun _ => Nat.zero_le _ }
  have hf₂ : First (· ≠ []) "File \"b/c.v\", line 40, characters 2-3:\n  Bad tmp_9 7".toList []
      ⟨"b/c.v".toList, "40".toList, "2-3".toList, by decide, by simp, by decide, by simp, by decide, by simp⟩
      "  Bad tmp_9 7".toList [] :=
    { split := by decide, body := by decide, le := fun _ => Nat.zero_le _ }
  obtain ⟨ho₁, hbody₁⟩ := errorBody_of_first hf₁
  obtain ⟨ho₂, hbody₂⟩ := errorBody_of_first hf₂
  have htrim₁ : Unicode.trim (String.ofList "Bad tmpab 12\n".toList) = "Bad tmpab 12" := by decide +kernel
  have htrim₂ : Unicode.trim (String.ofList "  Bad tmp_9 7".toList) = "Bad tmp_9 7" := by decide +kernel
  have hchar {c : Char} (ht : c ≠ 't') (hc : c.isDigit = false) {b w : List Char} (h : Alike b w) :
      Alike (c :: b) (c :: w) := .char (Template.noName_of_ne ht b) hc h
  have hnumber : Alike ("12".toList ++ []) ("7".toList ++ []) :=
    .number ⟨by decide, by simp⟩ (by simp [Template.Ends]) ⟨by decide, by simp⟩ .nil
  have hname : Alike ("tmpab".toList ++ ' ' :: ("12".toList ++ [])) ("tmp_9".toList ++ ' ' :: ("7".toList ++ [])) :=
    .name ⟨"ab".toList, rfl, by decide, by simp; decide⟩ (fun c hc => by obtain rfl := Option.some.inj hc; decide)
      ⟨"_9".toList, rfl, by decide, by simp; decide⟩ (hchar (by decide) (by decide) hnumber)
  have halike : Alike "Bad tmpab 12".toList "Bad tmp_9 7".toList :=
    hchar (by decide) (by decide) (hchar (by decide) (by decide) (hchar (by decide) (by decide)
      (hchar (by decide) (by decide) hname)))
  obtain ⟨body₁, body₂, herror₁, herror₂, h⟩ := generalize_eq_of_alike _ _ ho₁ ho₂
  obtain rfl := Except.ok.inj (hbody₁.symm.trans herror₁)
  obtain rfl := Except.ok.inj (hbody₂.symm.trans herror₂)
  rw [htrim₁, htrim₂] at h
  have hphrase : ¬ instancePhrase.toList <:+: "Bad tmpab 12".toList := mt occursIn_iff.2 (by decide)
  exact ⟨ho₁, ho₂, (h (by decide +kernel) (by decide +kernel) hphrase halike).resolve_right
    fun h => absurd h.1 (by decide)⟩

end Diagnostics
