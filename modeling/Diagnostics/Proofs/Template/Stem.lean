import Diagnostics.Proofs.Template.Seam
import Diagnostics.Proofs.Unicode.Space

/-!
# Words with their stems left open

A word of a universe inconsistency may have a stem, which ends at the first dot behind its first character that a digit
follows (`Stem`). A renamed text has other stems in the words that have one, and other names and numbers in what is
left of the words (`Renamed`). The template in which the stems of a text are open spells every renamed text
(`spells_of_renamed`).
-/

namespace Diagnostics.Template

open Rewrite (isTempChar)
open Unicode (isSpace)

/-! ## Stems -/

/-- The text begins with a dot that a digit follows. -/
def Dotted (cs : List Char) : Prop := ∃ d rest, cs = '.' :: d :: rest ∧ d.isDigit = true

theorem dotted_cons_iff {c : Char} {cs : List Char} :
    Dotted (c :: cs) ↔ (c == '.' && cs.head?.any Char.isDigit) = true := by
  cases cs with
  | nil => simp [Dotted]
  | cons d cs =>
    constructor
    · rintro ⟨e, rest, h, he⟩
      simp only [List.cons.injEq] at h
      obtain ⟨rfl, rfl, rfl⟩ := h
      simpa using he
    · intro h
      obtain ⟨hc, hd⟩ := Bool.and_eq_true_iff.1 h
      exact ⟨d, cs, by rw [beq_iff_eq.1 hc], by simpa using hd⟩

/-- A word is its stem and the rest: the stem is not empty, and the rest begins with the first dot behind the first
character that a digit follows. -/
structure Stem (word stem rest : List Char) : Prop where
  split : word = stem ++ rest
  ne : stem ≠ []
  dotted : Dotted rest
  le : ∀ {x y}, word = x ++ y → x ≠ [] → Dotted y → stem.length ≤ x.length

/-- The word has no dot behind its first character that a digit follows. -/
def NoStem (word : List Char) : Prop := ∀ x y, word = x ++ y → x ≠ [] → ¬ Dotted y

/-- The first dot that a digit follows is found, and none is found where there is none. -/
theorem afterStem?_false (cs : List Char) :
    (afterStem? false cs = none ∧ ∀ x y, cs = x ++ y → ¬ Dotted y) ∨
      ∃ stem rest, afterStem? false cs = some rest ∧ cs = stem ++ rest ∧ Dotted rest ∧
        ∀ x y, cs = x ++ y → Dotted y → stem.length ≤ x.length := by
  induction cs with
  | nil =>
    refine .inl ⟨rfl, fun x y h => ?_⟩
    obtain ⟨-, rfl⟩ := List.append_eq_nil_iff.1 h.symm
    rintro ⟨d, rest, h, -⟩
    cases h
  | cons c cs ih =>
    rw [afterStem?, Bool.not_false, Bool.true_and]
    split
    · rename_i hdot
      exact .inr ⟨[], c :: cs, rfl, rfl, dotted_cons_iff.2 hdot, fun _ _ _ _ => Nat.zero_le _⟩
    · rename_i hdot
      rcases ih with ⟨hnone, hno⟩ | ⟨stem, rest, hsome, hsplit, hdotted, hle⟩
      · refine .inl ⟨hnone, fun x y h hy => ?_⟩
        cases x with
        | nil =>
          rw [← List.nil_append y, ← h] at hy
          exact hdot (dotted_cons_iff.1 hy)
        | cons d x => exact hno x y (List.cons.inj h).2 hy
      · refine .inr ⟨c :: stem, rest, hsome, by rw [hsplit, List.cons_append], hdotted, fun x y h hy => ?_⟩
        cases x with
        | nil =>
          rw [← List.nil_append y, ← h] at hy
          exact absurd (dotted_cons_iff.1 hy) hdot
        | cons d x => exact Nat.succ_le_succ (hle x y (List.cons.inj h).2 hy)

/-- **The stem of a word** is found, and none is found where there is none. -/
theorem afterStem?_cases (word : List Char) :
    (afterStem? true word = none ∧ NoStem word) ∨
      ∃ stem rest, afterStem? true word = some rest ∧ Stem word stem rest := by
  cases word with
  | nil =>
    refine .inl ⟨rfl, fun x y h hx => ?_⟩
    exact absurd (List.append_eq_nil_iff.1 h.symm).1 hx
  | cons c cs =>
    have hfirst : afterStem? true (c :: cs) = afterStem? false cs := by
      rw [afterStem?, Bool.not_true, Bool.false_and, Bool.false_and, if_neg (by simp)]
    rw [hfirst]
    rcases afterStem?_false cs with ⟨hnone, hno⟩ | ⟨stem, rest, hsome, hsplit, hdotted, hle⟩
    · refine .inl ⟨hnone, fun x y h hx => ?_⟩
      cases x with
      | nil => exact absurd rfl hx
      | cons d x => exact hno x y (List.cons.inj h).2
    · refine .inr ⟨c :: stem, rest, hsome, by rw [hsplit, List.cons_append], by simp, hdotted, fun {x y} h hx hy => ?_⟩
      cases x with
      | nil => exact absurd rfl hx
      | cons d x => exact Nat.succ_le_succ (hle x y (List.cons.inj h).2 hy)

theorem stem_iff {word stem rest : List Char} :
    Stem word stem rest ↔ word = stem ++ rest ∧ afterStem? true word = some rest := by
  rcases afterStem?_cases word with ⟨hnone, hno⟩ | ⟨stem', rest', hsome, h'⟩
  · rw [hnone]
    exact ⟨fun h => absurd h.dotted (hno _ _ h.split h.ne), fun h => nomatch h.2⟩
  · rw [hsome]
    constructor
    · intro h
      have hlen := Nat.le_antisymm (h.le h'.split h'.ne h'.dotted) (h'.le h.split h.ne h.dotted)
      obtain ⟨-, rfl⟩ := List.append_inj (h.split.symm.trans h'.split) hlen
      exact ⟨h.split, rfl⟩
    · rintro ⟨hsplit, hrest⟩
      obtain rfl := Option.some.inj hrest
      obtain rfl := List.append_cancel_right (hsplit.symm.trans h'.split)
      exact h'

theorem noStem_iff {word : List Char} : NoStem word ↔ afterStem? true word = none := by
  rcases afterStem?_cases word with ⟨hnone, hno⟩ | ⟨stem, rest, hsome, h⟩
  · exact ⟨fun _ => hnone, fun _ => hno⟩
  · rw [hsome]
    exact ⟨fun hno => absurd h.dotted (hno _ _ h.split h.ne), fun h => nomatch h⟩

instance (word stem rest : List Char) : Decidable (Stem word stem rest) := decidable_of_iff _ stem_iff.symm

instance (word : List Char) : Decidable (NoStem word) := decidable_of_iff _ noStem_iff.symm

/-- The stem goes on over dots that no digit follows, and a dot in front is part of it. -/
example : Stem "..A.b.12.3".toList "..A.b".toList ".12.3".toList := by decide

theorem openStem_of_stem {word stem rest : List Char} (h : Stem word stem rest) :
    openStem word = .stem :: literal rest := by
  rw [openStem, (stem_iff.1 h).2]

theorem openStem_of_noStem {word : List Char} (h : NoStem word) : openStem word = literal word := by
  rw [openStem, noStem_iff.1 h]

/-! ## Words -/

/-- A run of characters that are not white space. -/
def IsWord (cs : List Char) : Prop := ∀ c ∈ cs, isSpace c = false

instance (cs : List Char) : Decidable (IsWord cs) := List.decidableBAll (fun c => isSpace c = false) cs

theorem openStemsFrom_append {word : List Char} (hword : IsWord word) (cs : List Char) :
    ∀ front : List Char, openStemsFrom front (word ++ cs) = openStemsFrom (word.reverse ++ front) cs := by
  induction word with
  | nil => exact fun _ => rfl
  | cons c word ih =>
    intro front
    have hc : isSpace c = false := hword c List.mem_cons_self
    rw [List.cons_append, openStemsFrom, if_neg (by simp [hc]), ih fun d hd => hword d (List.mem_cons_of_mem c hd),
      List.reverse_cons, List.append_assoc]
    rfl

theorem openStems_word {word : List Char} (hword : IsWord word) : openStems word = openStem word := by
  have h := openStemsFrom_append hword [] []
  rwa [List.append_nil, List.append_nil, openStemsFrom, List.reverse_reverse] at h

theorem openStems_space {word : List Char} (hword : IsWord word) {s : Char} (hs : isSpace s = true)
    (cs : List Char) : openStems (word ++ s :: cs) = openStem word ++ .char s :: openStems cs := by
  have h := openStemsFrom_append hword (s :: cs) []
  rwa [List.append_nil, openStemsFrom, if_pos hs, List.reverse_reverse] at h

theorem not_isDigit_of_isSpace {c : Char} (h : isSpace c = true) : Unicode.isDigit c = false := by
  rw [← Bool.not_eq_true]
  intro hdigit
  rw [Unicode.isSpace_of_isDigit hdigit] at h
  cases h

theorem isDigit_of_isSpace {c : Char} (h : isSpace c = true) : c.isDigit = false := by
  rw [← Bool.not_eq_true]
  intro hdigit
  exact absurd (isDigit_of_ascii hdigit) (by simp [not_isDigit_of_isSpace h])

theorem isAlpha_of_range {c : Char} (h : c.toNat < 65 ∨ 122 < c.toNat) : c.isAlpha = false := by
  rw [← Bool.not_eq_true]
  intro halpha
  have hval : c.toNat = c.val.toNat := rfl
  rcases Bool.or_eq_true_iff.1 halpha with hupper | hlower
  · have hrange : 65 ≤ c.val.toNat ∧ c.val.toNat ≤ 90 := of_decide_eq_true hupper
    omega
  · obtain ⟨hfirst, hlast⟩ := Bool.and_eq_true_iff.1 hlower
    have hrange : 97 ≤ c.val.toNat ∧ c.val.toNat ≤ 122 := ⟨of_decide_eq_true hfirst, of_decide_eq_true hlast⟩
    omega

/-- White space stands in no name. -/
theorem isTempChar_of_isSpace {c : Char} (h : isSpace c = true) : isTempChar c = false := by
  have hletters : ∀ q ∈ Unicode.whiteSpace, q.2 < 65 ∨ 122 < q.1 := by decide
  obtain ⟨q, hq, hfirst, hlast⟩ := Unicode.exists_range h
  have hrange : c.toNat < 65 ∨ 122 < c.toNat := by
    have hq := hletters q hq
    omega
  have hline : c ≠ '_' := by
    rintro rfl
    exact absurd hrange (by decide)
  rw [isTempChar, isAlpha_of_range hrange, beq_false_of_ne hline, not_isDigit_of_isSpace h]
  rfl

/-! ## Renamed texts -/

/-- The second word is the first with another stem, if it has one, and other names and numbers. -/
inductive RenamedWord : List Char → List Char → Prop
  | stem {word stem rest other w : List Char} (h : Stem word stem rest) (hne : other ≠ [])
    (hother : IsWord other) (hw : Variant False rest w) : RenamedWord word (other ++ w)
  | plain {word w : List Char} (h : NoStem word) (hw : Variant False word w) : RenamedWord word w

/-- The second text is the first with its words renamed; white space stays. -/
inductive Renamed : List Char → List Char → Prop
  | word {word w : List Char} (hword : IsWord word) (h : RenamedWord word w) : Renamed word w
  | space {word w rest v : List Char} {s : Char} (hword : IsWord word) (h : RenamedWord word w)
    (hs : isSpace s = true) (hrest : Renamed rest v) : Renamed (word ++ s :: rest) (w ++ s :: v)

theorem spells_of_variant_false {cs w : List Char} (h : Variant False cs w) :
    Spells (openNumbers (openTempNames (literal cs))) w := by
  have h' : Variant (false = true) cs w := by simpa using h
  exact spells_of_variant h'

theorem spells_of_renamedWord {word w : List Char} (h : RenamedWord word w) :
    Spells (openNumbers (openTempNames (openStem word))) w := by
  cases h with
  | stem h hne hother hw =>
    rw [openStem_of_stem h, openTempNames_closed rfl, openNumbers_cons rfl]
    exact .cons ⟨hne, hother⟩ (spells_of_variant_false hw)
  | plain h hw =>
    rw [openStem_of_noStem h]
    exact spells_of_variant_false hw

/-- **The template with open stems spells every renamed text.** -/
theorem spells_of_renamed {cs w : List Char} (h : Renamed cs w) :
    Spells (openNumbers (openTempNames (openStems cs))) w := by
  induction h with
  | word hword h =>
    rw [openStems_word hword]
    exact spells_of_renamedWord h
  | @space word w rest v s hword h hs _ ih =>
    have hname : Part.isChar isTempChar (.char s) = false := isTempChar_of_isSpace hs
    have hnumber : Part.isChar Char.isDigit (.char s) = false := isDigit_of_isSpace hs
    rw [openStems_space hword hs, openTempNames_append (closed_cons hname _), openTempNames_closed hname,
      openNumbers_append (closed_cons hnumber _), openNumbers_cons hnumber]
    exact spells_append.2 ⟨w, s :: v, rfl, spells_of_renamedWord h, spells_char_cons.2 ⟨v, rfl, ih⟩⟩

end Diagnostics.Template
