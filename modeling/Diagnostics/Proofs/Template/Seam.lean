import Diagnostics.Proofs.Template.Variant

/-!
# Seams between parts of a template

Names and numbers are opened run by run, each as long as it goes. Where a template goes on with a part that no run
can take in, the two sides can be opened apart (`openTempNames_append`, `openNumbers_append`). An open part is such a
seam, and so is a character that belongs in no name and no number. A phrase that stands in the template stands in
every text of it (`infix_of_spells`).
-/

namespace Diagnostics.Template

open Rewrite (instancePhrase isTempChar)

/-- The template does not go on with a character of the kind, so a run of the kind ends in front of it. -/
def Closed (p : Char → Bool) (t : Template) : Prop := ∀ part, t.head? = some part → part.isChar p = false

theorem closed_cons {p : Char → Bool} {part : Part} (h : part.isChar p = false) (t : Template) :
    Closed p (part :: t) := by
  intro other hother
  obtain rfl : part = other := Option.some.inj hother
  exact h

theorem Closed.dropWhile_append {p : Char → Bool} {t : Template} (ht : Closed p t) (s : Template) :
    (s ++ t).dropWhile (Part.isChar p) = s.dropWhile (Part.isChar p) ++ t := by
  induction s with
  | nil =>
    cases t with
    | nil => rfl
    | cons part t => rw [List.nil_append, List.dropWhile_cons, if_neg (by simp [ht part rfl])]; rfl
  | cons part s ih =>
    rw [List.cons_append, List.dropWhile_cons, List.dropWhile_cons]
    split
    · exact ih
    · rfl

/-! ## Names -/

/-- A part that belongs in no name stays. -/
theorem openTempNames_closed {part : Part} (h : part.isChar isTempChar = false) (t : Template) :
    openTempNames (part :: t) = part :: openTempNames t := by
  refine openTempNames_cons fun c s hpart _ => ?_
  rw [hpart] at h
  exact absurd h (by decide)

/-- **Names are opened on both sides of a seam.** -/
theorem openTempNames_append {t : Template} (ht : Closed isTempChar t) (s : Template) :
    openTempNames (s ++ t) = openTempNames s ++ openTempNames t := by
  induction s using openTempNames.induct with
  | case1 => rw [List.nil_append, openTempNames, List.nil_append]
  | case2 c rest hc ih =>
    simp only [List.cons_append]
    rw [openTempNames, if_pos hc, openTempNames, if_pos hc, ht.dropWhile_append, ih, List.cons_append]
  | case3 c rest hc ih =>
    simp only [List.cons_append] at ih ⊢
    rw [openTempNames, if_neg hc, openTempNames, if_neg hc, ih, List.cons_append]
  | case4 part rest hno ih =>
    have hcons : openTempNames (part :: rest) = part :: openTempNames rest := by
      rw [openTempNames]
      exact hno
    rw [hcons, List.cons_append, List.cons_append, ← ih]
    refine openTempNames_cons fun c s hpart heq => ?_
    -- a name cannot begin in front of the seam and go on behind it
    rcases rest with _ | ⟨m, _ | ⟨p, _ | ⟨d, rest⟩⟩⟩
    · have := ht (.char 'm') (by rw [show t = _ from heq]; rfl)
      simp [Part.isChar, isTempChar] at this
    · obtain ⟨-, heq⟩ := List.cons.inj heq
      have := ht (.char 'p') (by rw [show t = _ from heq]; rfl)
      simp [Part.isChar, isTempChar] at this
    · obtain ⟨-, heq⟩ := List.cons.inj heq
      obtain ⟨-, heq⟩ := List.cons.inj heq
      exact ht (.char c) (by rw [show t = _ from heq]; rfl)
    · simp only [List.cons_append, List.cons.injEq] at heq
      obtain ⟨rfl, rfl, rfl, -⟩ := heq
      exact absurd rfl (hno c rest hpart)

/-! ## Numbers -/

/-- **Numbers are opened on both sides of a seam.** -/
theorem openNumbers_append {t : Template} (ht : Closed Char.isDigit t) (s : Template) :
    openNumbers (s ++ t) = openNumbers s ++ openNumbers t := by
  induction s using openNumbers.induct with
  | case1 => rw [List.nil_append, openNumbers, List.nil_append]
  | case2 c rest hc ih =>
    rw [List.cons_append, openNumbers, if_pos hc, openNumbers, if_pos hc, ht.dropWhile_append, ih, List.cons_append]
  | case3 c rest hc ih =>
    rw [List.cons_append, openNumbers, if_neg hc, openNumbers, if_neg hc, ih, List.cons_append]
  | case4 part rest hno ih =>
    have hpart : part.isChar Char.isDigit = false := by
      cases part with
      | char c => exact absurd rfl (hno c)
      | _ => rfl
    rw [List.cons_append, openNumbers_cons hpart, openNumbers_cons hpart, ih, List.cons_append]

theorem openUnless_append {t : Template} (ht : Closed Char.isDigit t) (keep : Bool) (s : Template) :
    openUnless keep (s ++ t) = openUnless keep s ++ openUnless keep t := by
  cases keep
  · exact openNumbers_append ht s
  · rfl

/-! ## Phrases -/

/-- A phrase that is written out in a template stands in every text of it. -/
theorem infix_of_spells {w v : List Char} {t : Template} (ht : literal w <:+: t) (hv : Spells t v) : w <:+: v := by
  obtain ⟨a, b, rfl⟩ := ht
  obtain ⟨_, y, rfl, hleft, -⟩ := spells_append.1 hv
  obtain ⟨x, z, rfl, -, hw⟩ := spells_append.1 hleft
  rw [spells_literal.1 hw]
  exact ⟨x, y, rfl⟩

/-- A phrase stands on one side of a part that is not in it. -/
theorem infix_append_cons_iff {α : Type} {w : List α} {a : α} (ha : a ∉ w) (s t : List α) :
    w <:+: s ++ a :: t ↔ w <:+: s ∨ w <:+: t := by
  constructor
  · rintro ⟨x, y, h⟩
    rw [List.append_assoc] at h
    rcases List.append_eq_append_iff.1 h with ⟨u, rfl, hrest⟩ | ⟨u, rfl, hrest⟩
    · -- the phrase begins in front of the part
      rcases List.append_eq_append_iff.1 hrest with ⟨v, rfl, -⟩ | ⟨v, hw, hcons⟩
      · exact .inl ⟨x, v, by rw [List.append_assoc]⟩
      · cases v with
        | nil => exact .inl ⟨x, [], by rw [hw]; simp⟩
        | cons b v =>
          obtain ⟨rfl, -⟩ := List.cons.inj hcons
          exact absurd (by rw [hw]; simp) ha
    · cases u with
      | nil =>
        cases w with
        | nil => exact .inl List.nil_infix
        | cons b w =>
          obtain ⟨rfl, -⟩ := List.cons.inj hrest
          exact absurd List.mem_cons_self ha
      | cons b u =>
        obtain ⟨-, ht⟩ := List.cons.inj hrest
        exact .inr ⟨u, y, by rw [List.append_assoc]; exact ht.symm⟩
  · rintro (h | h)
    · exact h.trans (List.prefix_append s (a :: t)).isInfix
    · exact h.trans ((List.suffix_cons a t).trans (List.suffix_append s (a :: t))).isInfix

theorem keepsNumbers_append_anything (s t : Template) :
    keepsNumbers (s ++ .anything :: t) = true ↔ keepsNumbers s = true ∨ keepsNumbers t = true := by
  have hphrase : Part.anything ∉ literal instancePhrase.toList := by simp [literal]
  rw [keepsNumbers, keepsNumbers, keepsNumbers, occursIn_iff, occursIn_iff, occursIn_iff, infix_append_cons_iff hphrase]

/-! ## Texts around an open part -/

/-- A text with its middle left open spells the variants of the two sides with anything between them. -/
theorem spells_around (top bottom : List Char) {w : List Char} :
    let t := openTempNames (literal top ++ .anything :: literal bottom)
    Spells (openUnless t.keepsNumbers t) w ↔ ∃ w₁ any w₂, w = w₁ ++ any ++ w₂ ∧
      Variant (KeepsNumbers top ∨ KeepsNumbers bottom) top w₁ ∧
      Variant (KeepsNumbers top ∨ KeepsNumbers bottom) bottom w₂ := by
  intro t
  have ht : t = openTempNames (literal top) ++ .anything :: openTempNames (literal bottom) := by
    rw [← openTempNames_closed rfl]
    exact openTempNames_append (closed_cons rfl _) _
  have hkeep : (t.keepsNumbers = true) = (KeepsNumbers top ∨ KeepsNumbers bottom) := by
    rw [ht, keepsNumbers_append_anything, keepsNumbers_iff, keepsNumbers_iff]
  rw [← hkeep]
  generalize t.keepsNumbers = keep
  have hopen : openUnless keep t =
      openUnless keep (openTempNames (literal top)) ++
        .anything :: openUnless keep (openTempNames (literal bottom)) := by
    rw [ht, openUnless_append (closed_cons rfl _), openUnless_cons rfl]
  rw [hopen, spells_append]
  constructor
  · rintro ⟨w₁, _, rfl, htop, hrest⟩
    obtain ⟨any, w₂, rfl, -, hbottom⟩ := spells_cons.1 hrest
    exact ⟨w₁, any, w₂, by rw [List.append_assoc], variant_of_spells htop, variant_of_spells hbottom⟩
  · rintro ⟨w₁, any, w₂, rfl, htop, hbottom⟩
    exact ⟨w₁, any ++ w₂, by rw [List.append_assoc], spells_of_variant htop, .cons trivial (spells_of_variant hbottom)⟩

end Diagnostics.Template
