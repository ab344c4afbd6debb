import Diagnostics.Proofs.Generalize.OwnBody
import Diagnostics.Proofs.Template.Stem

/-!
# Universe inconsistencies

A universe inconsistency is kept up to the word that begins its explanation, and the stems of its universe names are
left open. So the explanation changes nothing in the pattern, and the pattern matches the text kept with other stems,
other names and other numbers, whatever follows (`generalizeBody_ignores_explanation`).
-/

namespace Diagnostics

open DiagnosticFamily (universePhrase)
open Rewrite (because instancePhrase)
open Template (Spells Variant Stem NoStem Renamed RenamedWord closed_cons openTempNames openNumbers openStems)

/-! ## What stands for the explanation

A template ends with an open part if an explanation has been cut off, and names and numbers in front of it are opened
apart from it. -/

theorem openTempNames_tail (t : Template) (cut : Bool) :
    openTempNames (t ++ if cut then [.anything] else []) = openTempNames t ++ if cut then [.anything] else [] := by
  cases cut with
  | true =>
    rw [if_pos rfl, Template.openTempNames_append (closed_cons rfl []), Template.openTempNames_closed rfl, openTempNames]
  | false => simp only [Bool.false_eq_true, if_false, List.append_nil]

theorem openNumbers_tail (t : Template) (cut : Bool) :
    openNumbers (t ++ if cut then [.anything] else []) = openNumbers t ++ if cut then [.anything] else [] := by
  cases cut with
  | true => rw [if_pos rfl, Template.openNumbers_append (closed_cons rfl []), Template.openNumbers_cons rfl, openNumbers]
  | false => simp only [Bool.false_eq_true, if_false, List.append_nil]

/-- What follows the text kept may be empty. -/
theorem spells_tail {t : Template} {w : List Char} (h : Spells t w) (cut : Bool) :
    Spells (t ++ if cut then [.anything] else []) w := by
  refine Template.spells_append.2 ⟨w, [], (List.append_nil w).symm, h, ?_⟩
  cases cut with
  | true => exact Template.spells_anything []
  | false => exact .nil

/-! ## The text that is kept -/

/-- The text that is kept of a universe inconsistency: it ends with the first `because` behind the first phrase. If
there is none, nothing is cut and all of the text is kept. -/
inductive Kept (text : List Char) : List Char → Bool → Prop
  | cut {before after between rest : List Char} (hphrase : FirstAt universePhrase.toList text before after)
    (hbecause : FirstAt because.toList after between rest) :
    Kept text (before ++ universePhrase.toList ++ between ++ because.toList) true
  | whole {before after : List Char} (hphrase : FirstAt universePhrase.toList text before after)
    (hbecause : ¬ because.toList <:+: after) : Kept text text false

theorem exists_kept {text : List Char} (h : universePhrase.toList <:+: text) : ∃ kept cut, Kept text kept cut := by
  obtain ⟨before, after, hphrase⟩ := exists_firstAt h
  by_cases hbecause : because.toList <:+: after
  · obtain ⟨between, rest, hbecause⟩ := exists_firstAt hbecause
    exact ⟨_, _, .cut hphrase hbecause⟩
  · exact ⟨_, _, .whole hphrase hbecause⟩

namespace Kept

variable {b : String} {text kept w : List Char} {cut : Bool}

theorem cutExplanation_eq (h : Kept text kept cut) : Template.cutExplanation text = (kept, cut) := by
  cases h with
  | cut hphrase hbecause => simp only [Template.cutExplanation, hphrase.cut, hbecause.cut]
  | whole hphrase hbecause => simp only [Template.cutExplanation, hphrase.cut, cutAtFirst?_eq_none_iff.2 hbecause]

theorem phrase_infix (h : Kept text kept cut) : universePhrase.toList <:+: text := by
  cases h with
  | cut hphrase | whole hphrase => exact ⟨_, _, by rw [hphrase.split, List.append_assoc]⟩

/-- **Whatever explanation follows**, the same text is kept. -/
theorem append (h : Kept text kept true) (r : List Char) : Kept (kept ++ r) kept true := by
  cases h with
  | @cut before after between rest hphrase hbecause =>
    have hafter : after = between ++ because.toList ++ rest := by rw [hbecause.split, List.append_assoc]
    rw [hafter] at hphrase
    -- the first phrase and the first word behind it are still the first ones
    have hphrase' : FirstAt universePhrase.toList (before ++ universePhrase.toList ++ between ++ because.toList ++ r)
        before (between ++ (because.toList ++ r)) := by
      simpa using hphrase.of_append.append r
    have hbecause' : FirstAt because.toList (between ++ (because.toList ++ r)) between r := by
      have hend : FirstAt because.toList after between ([] ++ rest) := hbecause
      simpa using hend.of_append.append r
    exact .cut hphrase' hbecause'

/-- The pattern is made from the text kept and from whether anything was cut. -/
theorem ofBody_eq (h : Kept b.toList kept cut) :
    Template.ofBody b =
      let t := openTempNames (openStems kept ++ if cut then [.anything] else [])
      if t.keepsNumbers then t else openNumbers t := by
  have hfamily : DiagnosticFamily.classify b = .universeInconsistency := if_pos (occursIn_iff.2 h.phrase_infix)
  simp only [Template.ofBody, hfamily, Template.ofFamily, Template.ofUniverse, h.cutExplanation_eq]

/-- **The explanation changes nothing** in the pattern. -/
theorem generalizeBody_append (h : Kept b.toList kept true) (r : List Char) :
    generalizeBody (String.ofList (kept ++ r)) = generalizeBody b := by
  have hr : Kept (String.ofList (kept ++ r)).toList kept true := by
    rw [String.toList_ofList]
    exact h.append r
  rw [Template.generalizeBody_eq, Template.generalizeBody_eq, hr.ofBody_eq, h.ofBody_eq]

/-- The text kept is kept of itself. -/
theorem self (h : Kept text kept cut) : Kept kept kept cut := by
  cases cut with
  | true => simpa using h.append []
  | false =>
    cases h with
    | whole hphrase hbecause => exact .whole hphrase hbecause

theorem generalizeBody_kept (h : Kept b.toList kept cut) : generalizeBody (String.ofList kept) = generalizeBody b := by
  cases cut with
  | true => simpa using h.generalizeBody_append []
  | false =>
    cases h with
    | whole => rw [String.ofList_toList]

/-- **The template of a universe inconsistency** spells the text kept with its words renamed. -/
theorem spells_ofBody (h : Kept b.toList kept cut) (hphrase : ¬ instancePhrase.toList <:+: kept)
    (hw : Renamed kept w) : (Template.ofBody b).Spells w := by
  have hown : Spells (openTempNames (openStems kept) ++ if cut then [.anything] else []) kept :=
    spells_tail (Template.spells_openTempNames (Template.spells_openStems kept)) cut
  have hnumbers : ¬ Template.keepsNumbers (openTempNames (openStems kept) ++ if cut then [.anything] else []) = true :=
    fun hkeep => hphrase (Template.infix_of_spells (occursIn_iff.1 hkeep) hown)
  rw [h.ofBody_eq, openTempNames_tail]
  simp only [if_neg hnumbers]
  rw [openNumbers_tail]
  exact spells_tail (Template.spells_of_renamed hw) cut

end Kept

/-! ## The pattern -/

/-- **A universe inconsistency is told by what is kept of it.** The explanation changes nothing in its pattern, and
unless the text kept is about the length of a universe instance, the pattern matches that text with other stems in its
words, other names and other numbers, behind any header and before any other text. Only for a long text may there be
no pattern, as it would be too large. -/
theorem generalizeBody_ignores_explanation (b : String) (hb : universePhrase.toList <:+: b.toList) :
    ∃ kept cut, Kept b.toList kept cut ∧
      (cut = true → ∀ r : List Char, generalizeBody (String.ofList (kept ++ r)) = generalizeBody b) ∧
      (¬ instancePhrase.toList <:+: kept →
        (∃ p, ErrorPattern.ofBody (generalizeBody b) = .ok p ∧
          ∀ (pre : List Char) (h : Header) (w post : List Char), Renamed kept w →
            p.hasError (String.ofList (pre ++ (h.chars ++ (w ++ post)))) = true) ∨
        100000 < kept.length ∧ ∃ source,
          ErrorPattern.ofBody (generalizeBody b) = .error (.invalidPattern source .tooLarge)) := by
  obtain ⟨kept, cut, hkept⟩ := exists_kept hb
  refine ⟨kept, cut, hkept, ?_, fun hphrase => ?_⟩
  · rintro rfl
    exact hkept.generalizeBody_append
  · rw [← hkept.generalizeBody_kept]
    have hself : Kept (String.ofList kept).toList kept cut := by
      rw [String.toList_ofList]
      exact hkept.self
    rw [← String.length_ofList (l := kept)]
    refine (Template.ofBody_cases (String.ofList kept)).imp_left ?_
    rintro ⟨p, hp, htree⟩
    refine ⟨p, hp, fun pre h w post hw => ?_⟩
    rw [ErrorPattern.hasError_iff (ErrorPattern.hasBody_template htree)]
    exact ⟨pre, h, w, post, String.toList_ofList, hself.spells_ofBody hphrase hw⟩

/-- A universe of another module, with an explanation. -/
theorem generalizeBody_ignores_explanation_stem :
    universePhrase.toList <:+: "Universe inconsistency: Top.1 because x".toList ∧
    (∀ r : List Char, generalizeBody (String.ofList ("Universe inconsistency: Top.1 because".toList ++ r)) =
      generalizeBody "Universe inconsistency: Top.1 because x") ∧
    ∃ p, ErrorPattern.ofBody (generalizeBody "Universe inconsistency: Top.1 because x") = .ok p ∧
      p.hasError "File \"a.v\", line 3, characters 0-5:\nUniverse inconsistency: A.b.23 because\ny" = true := by
  have hb : universePhrase.toList <:+: "Universe inconsistency: Top.1 because x".toList := occursIn_iff.1 (by decide)
  have hcut : Template.cutExplanation "Universe inconsistency: Top.1 because x".toList =
      ("Universe inconsistency: Top.1 because".toList, true) := by decide +kernel
  obtain ⟨kept, cut, hkept, happend, hrenamed⟩ := generalizeBody_ignores_explanation _ hb
  obtain ⟨rfl, rfl⟩ := Prod.mk.inj (hkept.cutExplanation_eq.symm.trans hcut)
  obtain ⟨p, hp, hmatch⟩ := (hrenamed (mt occursIn_iff.2 (by decide))).resolve_right fun h => absurd h.1 (by decide)
  refine ⟨hb, happend rfl, p, hp, ?_⟩
  have hplain (word : List Char) (h : NoStem word) : RenamedWord word word := .plain h (.refl False word)
  have hrest : Variant False ('.' :: (['1'] ++ [])) ('.' :: (['2', '3'] ++ [])) :=
    .char (Template.noName_of_ne (by decide) _) (by decide)
      (.number id ⟨by decide, by simp⟩ (by simp [Template.Ends]) ⟨by decide, by simp; decide⟩ .nil)
  have hstem : Stem "Top.1".toList "Top".toList ('.' :: (['1'] ++ [])) := by decide
  have hother : RenamedWord "Top.1".toList ("A.b".toList ++ ('.' :: (['2', '3'] ++ []))) :=
    .stem hstem (by decide) (by decide) hrest
  have hw : Renamed ("Universe".toList ++ ' ' :: ("inconsistency:".toList ++ ' ' :: ("Top.1".toList ++ ' ' ::
      "because".toList))) ("Universe".toList ++ ' ' :: ("inconsistency:".toList ++ ' ' ::
        (("A.b".toList ++ ('.' :: (['2', '3'] ++ []))) ++ ' ' :: "because".toList))) :=
    .space (by decide) (hplain _ (by decide)) (by decide) <| .space (by decide) (hplain _ (by decide)) (by decide) <|
      .space (by decide) hother (by decide) <| .word (by decide) (hplain _ (by decide))
  have hfound := hmatch [] ⟨"a.v".toList, "3".toList, "0-5".toList, by decide, by simp, by decide, by simp, by decide,
    by simp⟩ _ "\ny".toList hw
  exact hfound

end Diagnostics
