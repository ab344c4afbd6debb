import Diagnostics.Proofs.Template.Own
import Diagnostics.Proofs.Unicode.Space

/-!
# How the texts of a template begin

The template of a text that begins with no white space stands for such texts only: its first part is a character
other than white space, or an open part that spells something of the kind (`startsSolid_of_spells_ofBody`). What
may stand for anything never comes first.
-/

namespace Diagnostics

open Unicode (StartsSolid isSpace)

/-- The part spells texts that begin with a character other than white space, and never the empty text. -/
def Part.Solid (p : Part) : Prop := ∀ w, p.Spells w → ∃ c v, w = c :: v ∧ isSpace c = false

namespace Part

theorem solid_char {c : Char} (hc : isSpace c = false) : (char c).Solid := by
  rintro _ rfl
  exact ⟨c, [], rfl, hc⟩

theorem solid_tempName : tempName.Solid := by
  rintro _ ⟨v, rfl, -⟩
  exact ⟨'t', _, rfl, by decide⟩

theorem solid_number : number.Solid := by
  rintro w ⟨hne, hw⟩
  cases w with
  | nil => exact absurd rfl hne
  | cons c v => exact ⟨c, v, rfl, Unicode.isSpace_of_isDigit (hw c (by simp))⟩

theorem solid_stem : stem.Solid := by
  rintro w ⟨hne, hw⟩
  cases w with
  | nil => exact absurd rfl hne
  | cons c v => exact ⟨c, v, rfl, hw c (by simp)⟩

end Part

namespace Template

open Rewrite (because unsatisfiedHeader unsatisfiableHeader)

/-- The first part of the template is solid. -/
def BeginsSolid (t : Template) : Prop := ∃ p s, t = p :: s ∧ p.Solid

theorem BeginsSolid.append {t : Template} (h : t.BeginsSolid) (s : Template) : BeginsSolid (t ++ s) := by
  obtain ⟨p, r, rfl, hp⟩ := h
  exact ⟨p, r ++ s, rfl, hp⟩

/-- What a template with a solid first part spells begins with no white space. -/
theorem BeginsSolid.head {t : Template} (h : t.BeginsSolid) {w : List Char} (hw : Spells t w) :
    ∃ c v, w = c :: v ∧ isSpace c = false := by
  obtain ⟨p, r, rfl, hp⟩ := h
  obtain ⟨u, v, rfl, hu, -⟩ := spells_cons.1 hw
  obtain ⟨c, u, rfl, hc⟩ := hp u hu
  exact ⟨c, u ++ v, rfl, hc⟩

theorem beginsSolid_literal {cs : List Char} (hne : cs ≠ []) (h : StartsSolid cs) : (literal cs).BeginsSolid := by
  cases cs with
  | nil => exact absurd rfl hne
  | cons c cs => exact ⟨.char c, literal cs, rfl, Part.solid_char (h c rfl)⟩

theorem BeginsSolid.openTempNames {t : Template} (h : t.BeginsSolid) : (openTempNames t).BeginsSolid := by
  obtain ⟨p, r, rfl, hp⟩ := h
  rw [openTempNames.eq_def]
  split
  · rename_i heq
    cases heq
  · rename_i c rest heq
    obtain ⟨rfl, -⟩ := List.cons.inj heq
    split
    · exact ⟨_, _, rfl, Part.solid_tempName⟩
    · exact ⟨_, _, rfl, hp⟩
  · rename_i part rest _ heq
    obtain ⟨rfl, -⟩ := List.cons.inj heq
    exact ⟨_, _, rfl, hp⟩

theorem BeginsSolid.openNumbers {t : Template} (h : t.BeginsSolid) : (openNumbers t).BeginsSolid := by
  obtain ⟨p, r, rfl, hp⟩ := h
  rw [openNumbers.eq_def]
  split
  · rename_i heq
    cases heq
  · rename_i c rest heq
    obtain ⟨rfl, -⟩ := List.cons.inj heq
    split
    · exact ⟨_, _, rfl, Part.solid_number⟩
    · exact ⟨_, _, rfl, hp⟩
  · rename_i part rest _ heq
    obtain ⟨rfl, -⟩ := List.cons.inj heq
    exact ⟨_, _, rfl, hp⟩

theorem beginsSolid_openStem {word : List Char} (hne : word ≠ []) (h : StartsSolid word) :
    (openStem word).BeginsSolid := by
  unfold openStem
  split
  · exact ⟨_, _, rfl, Part.solid_stem⟩
  · exact beginsSolid_literal hne h

/-- `word` is the beginning of the first word, last character first. -/
theorem beginsSolid_openStemsFrom {cs : List Char} : ∀ {word : List Char}, word ≠ [] → StartsSolid word.reverse →
    (openStemsFrom word cs).BeginsSolid := by
  induction cs with
  | nil =>
    intro word hne h
    exact beginsSolid_openStem (by simpa using hne) h
  | cons c cs ih =>
    intro word hne h
    rw [openStemsFrom]
    split
    · exact (beginsSolid_openStem (by simpa using hne) h).append _
    · refine ih (by simp) fun d hd => h d ?_
      rw [List.reverse_cons, List.head?_append] at hd
      cases hrev : word.reverse with
      | nil => exact absurd (List.reverse_eq_nil_iff.1 hrev) hne
      | cons e es => rw [hrev] at hd; simpa using hd

theorem beginsSolid_openStems {cs : List Char} (hne : cs ≠ []) (h : StartsSolid cs) : (openStems cs).BeginsSolid := by
  cases cs with
  | nil => exact absurd rfl hne
  | cons c cs =>
    have hc : isSpace c = false := h c rfl
    rw [openStems, openStemsFrom, if_neg (by simp [hc])]
    exact beginsSolid_openStemsFrom (by simp) (by simpa [StartsSolid] using hc)

/-- A beginning of a text that is not empty begins as the text does. -/
theorem startsSolid_beginning {cs xs : List Char} (h : StartsSolid cs) (hcs : xs <+: cs) : StartsSolid xs := by
  obtain ⟨ys, rfl⟩ := hcs
  exact fun c hc => h c (by rw [List.head?_append, hc, Option.some_or])

theorem cutExplanation_ne_nil {cs : List Char} (hne : cs ≠ []) : (cutExplanation cs).1 ≠ [] := by
  unfold cutExplanation
  split
  · exact hne
  · split
    · exact hne
    · simp [because]

theorem beginsSolid_ofUniverse {cs : List Char} (hne : cs ≠ []) (h : StartsSolid cs) :
    (ofUniverse cs).BeginsSolid := by
  obtain ⟨rest, hcs, -⟩ := cutExplanation_spec cs
  exact (beginsSolid_openStems (cutExplanation_ne_nil hne) (startsSolid_beginning h ⟨_, hcs.symm⟩)).append _

theorem beginsSolid_ofUnsatisfied {cs : List Char} (hne : cs ≠ []) (h : StartsSolid cs) :
    (ofUnsatisfied cs).BeginsSolid := by
  unfold ofUnsatisfied
  split
  · exact beginsSolid_literal hne h
  · rename_i before after hheader
    split
    · exact beginsSolid_literal hne h
    · refine (beginsSolid_literal (by simp [unsatisfiedHeader]) (startsSolid_beginning h ⟨after, ?_⟩)).append _
      rw [cutAtFirst?_eq_some hheader, List.append_assoc]

theorem beginsSolid_ofUnsatisfiable {cs : List Char} (hne : cs ≠ []) (h : StartsSolid cs) :
    (ofUnsatisfiable cs).BeginsSolid := by
  unfold ofUnsatisfiable
  split
  · exact beginsSolid_literal hne h
  · rename_i before after hheader
    refine (beginsSolid_literal (by simp [unsatisfiableHeader]) (startsSolid_beginning h ⟨after, ?_⟩)).append _
    rw [cutAtFirst?_eq_some hheader, List.append_assoc]

theorem beginsSolid_ofFamily (family : DiagnosticFamily) {cs : List Char} (hne : cs ≠ []) (h : StartsSolid cs) :
    (ofFamily family cs).BeginsSolid := by
  cases family with
  | universeInconsistency => exact beginsSolid_ofUniverse hne h
  | unsatisfiedConstraints => exact beginsSolid_ofUnsatisfied hne h
  | unsatisfiableConstraints => exact beginsSolid_ofUnsatisfiable hne h
  | other => exact beginsSolid_literal hne h

/-- **The template of a text that begins with no white space** stands for such texts only, and not for the empty
text. -/
theorem startsSolid_of_spells_ofBody {body : String} (hne : body.toList ≠ []) (h : StartsSolid body.toList)
    {w : List Char} (hw : Spells (ofBody body) w) : ∃ c v, w = c :: v ∧ isSpace c = false := by
  have hnames := (beginsSolid_ofFamily (DiagnosticFamily.classify body) hne h).openTempNames
  simp only [ofBody] at hw
  split at hw
  · exact hnames.head hw
  · exact hnames.openNumbers.head hw

end Template

end Diagnostics
