import Diagnostics.Proofs.Generalize.OwnBody
import Diagnostics.Proofs.Template.Seam

/-!
# Constraints that are left open

Two families of errors list constraints. Those that a tactic left behind stand between a header and a footer, those
without a solution stand behind a header. The patterns of such errors keep what is around the constraints, with other
names and numbers, and take anything for the constraints themselves (`generalizeBody_accepts_constraints`).
-/

namespace Diagnostics

open Rewrite (unsatisfiedHeader unsatisfiedFooter unsatisfiableHeader)
open Template (Spells Variant KeepsNumbers literal openTempNames openUnless)

/-- The pattern of an error text accepts the outputs in which a header is followed by a text of the kind, and no
others. Only for a long text may there be no pattern, as it would be too large. -/
def AcceptsTexts (b : String) (L : List Char → Prop) : Prop :=
  (∃ p, ErrorPattern.ofBody (generalizeBody b) = .ok p ∧ ∀ o : String, p.hasError o = true ↔
    ∃ (pre : List Char) (h : Header) (w post : List Char), o.toList = pre ++ (h.chars ++ (w ++ post)) ∧ L w) ∨
  100000 < b.length ∧ ∃ source, ErrorPattern.ofBody (generalizeBody b) = .error (.invalidPattern source .tooLarge)

/-- The texts that a pattern accepts behind a header are those of the template. -/
theorem acceptsTexts_of_spells {b : String} {L : List Char → Prop} (h : ∀ w, Spells (Template.ofBody b) w ↔ L w) :
    AcceptsTexts b L := by
  refine (Template.ofBody_cases b).imp_left ?_
  rintro ⟨p, hp, htree⟩
  refine ⟨p, hp, fun o => ?_⟩
  rw [ErrorPattern.hasError_iff (ErrorPattern.hasBody_template htree)]
  constructor
  · rintro ⟨pre, header, w, post, hsplit, hw⟩
    exact ⟨pre, header, w, post, hsplit, (h w).1 hw⟩
  · rintro ⟨pre, header, w, post, hsplit, hw⟩
    exact ⟨pre, header, w, post, hsplit, (h w).2 hw⟩

/-! ## Constraints between a header and a footer -/

/-- The constraints that a tactic left behind: the text on top ends with the first header, and the text below begins
with the last footer. -/
structure Leftover (text top middle bottom : List Char) : Prop where
  split : text = top ++ (middle ++ bottom)
  top_eq : ∃ before after, FirstAt unsatisfiedHeader.toList text before after ∧
    top = before ++ unsatisfiedHeader.toList
  bottom_eq : ∃ before after, LastAt unsatisfiedFooter.toList text before after ∧
    bottom = unsatisfiedFooter.toList ++ after

/-- A text with a header and a footer behind it has constraints. -/
theorem exists_leftover {text x y z : List Char}
    (h : text = x ++ unsatisfiedHeader.toList ++ y ++ unsatisfiedFooter.toList ++ z) :
    ∃ top middle bottom, Leftover text top middle bottom := by
  have hheader : text = x ++ (unsatisfiedHeader.toList ++ (y ++ unsatisfiedFooter.toList ++ z)) := by
    rw [h]
    simp only [List.append_assoc]
  have hfooter : text = (x ++ unsatisfiedHeader.toList ++ y) ++ (unsatisfiedFooter.toList ++ z) := by
    rw [h, List.append_assoc _ unsatisfiedFooter.toList]
  have hheaderIn : unsatisfiedHeader.toList <:+: text := ⟨x, _, by rw [hheader, List.append_assoc]⟩
  have hfooterIn : unsatisfiedFooter.toList <:+: text := ⟨_, z, by rw [hfooter, List.append_assoc]⟩
  obtain ⟨before, after, hfirst⟩ := exists_firstAt hheaderIn
  obtain ⟨front, rest, hlast⟩ := exists_lastAt hfooterIn
  -- the last footer begins behind the first header
  have hle : (before ++ unsatisfiedHeader.toList).length ≤ front.length := by
    have hbefore := hfirst.le hheader
    have hfront := hlast.le hfooter
    simp only [List.length_append] at hfront ⊢
    omega
  have htop : before ++ unsatisfiedHeader.toList <+: text := ⟨after, by rw [hfirst.split, List.append_assoc]⟩
  obtain ⟨middle, rfl⟩ := List.prefix_of_prefix_length_le htop ⟨_, hlast.split.symm⟩ hle
  exact ⟨_, middle, _, by rw [hlast.split, List.append_assoc], ⟨before, after, hfirst, rfl⟩, ⟨_, rest, hlast, rfl⟩⟩

/-- The constraints are what the template leaves open. -/
theorem Leftover.ofUnsatisfied {text top middle bottom : List Char} (h : Leftover text top middle bottom) :
    Template.ofUnsatisfied text = literal top ++ .anything :: literal bottom := by
  obtain ⟨before, after, hfirst, htop⟩ := h.top_eq
  obtain ⟨front, rest, hlast, hbottom⟩ := h.bottom_eq
  have hafter : after = middle ++ bottom := by
    have hsplit := h.split
    rw [htop, hfirst.split, List.append_assoc] at hsplit
    exact List.append_cancel_left (List.append_cancel_left hsplit)
  have hfront : front = top ++ middle := by
    have hsplit := h.split
    rw [hbottom, hlast.split, ← List.append_assoc top] at hsplit
    exact List.append_cancel_right hsplit
  have hcut : LastAt unsatisfiedFooter.toList after middle rest := by
    refine ⟨by rw [hafter, hbottom], fun {x y} hx => ?_⟩
    have hle := hlast.le (x := top ++ x) (y := y) (by rw [h.split, ← hafter, hx, List.append_assoc])
    rw [hfront, List.length_append, List.length_append] at hle
    omega
  simp only [Template.ofUnsatisfied, hfirst.cut, hcut.cut, htop, hbottom]

/-! ## Constraints behind a header -/

theorem ofUnsatisfiable_of_firstAt {text before after : List Char}
    (h : FirstAt unsatisfiableHeader.toList text before after) :
    Template.ofUnsatisfiable text = literal (before ++ unsatisfiableHeader.toList) ++ .anything :: literal [] := by
  simp only [Template.ofUnsatisfiable, h.cut]
  rfl

theorem variant_nil_iff {fixed : Prop} {w : List Char} : Variant fixed [] w ↔ w = [] := by
  constructor
  · intro h
    generalize hcs : ([] : List Char) = cs at h
    cases h with
    | nil => rfl
    | name hn =>
      obtain ⟨u, rfl, -⟩ := hn
      cases hcs
    | number _ hd => exact absurd (List.append_eq_nil_iff.1 hcs.symm).1 hd.1
    | char => cases hcs
  · rintro rfl
    exact .nil

theorem not_keepsNumbers_nil : ¬ KeepsNumbers [] := by
  rw [← Template.keepsNumbers_iff, literal, List.map_nil, openTempNames]
  decide

/-! ## The patterns -/

/-- **The pattern of constraints that a tactic left behind** accepts the texts around them with anything between. -/
theorem acceptsTexts_leftover {b : String} (hb : DiagnosticFamily.classify b = .unsatisfiedConstraints)
    {top middle bottom : List Char} (h : Leftover b.toList top middle bottom) :
    AcceptsTexts b fun w => ∃ w₁ any w₂, w = w₁ ++ any ++ w₂ ∧
      Variant (KeepsNumbers top ∨ KeepsNumbers bottom) top w₁ ∧
      Variant (KeepsNumbers top ∨ KeepsNumbers bottom) bottom w₂ := by
  refine acceptsTexts_of_spells fun w => ?_
  simp only [Template.ofBody, hb, Template.ofFamily, h.ofUnsatisfied]
  exact Template.spells_around top bottom

/-- **The pattern of constraints without a solution** accepts the text up to them with anything behind. -/
theorem acceptsTexts_unsatisfiable {b : String} (hb : DiagnosticFamily.classify b = .unsatisfiableConstraints)
    {before after : List Char} (h : FirstAt unsatisfiableHeader.toList b.toList before after) :
    AcceptsTexts b fun w => ∃ w₁ any, w = w₁ ++ any ∧
      Variant (KeepsNumbers (before ++ unsatisfiableHeader.toList)) (before ++ unsatisfiableHeader.toList) w₁ := by
  refine acceptsTexts_of_spells fun w => ?_
  simp only [Template.ofBody, hb, Template.ofFamily, ofUnsatisfiable_of_firstAt h]
  refine (Template.spells_around (before ++ unsatisfiableHeader.toList) []).trans ?_
  simp only [variant_nil_iff, not_keepsNumbers_nil, or_false]
  constructor
  · rintro ⟨w₁, any, _, rfl, hw, rfl⟩
    exact ⟨w₁, any, List.append_nil _, hw⟩
  · rintro ⟨w₁, any, rfl, hw⟩
    exact ⟨w₁, any, [], (List.append_nil _).symm, hw, rfl⟩

/-- **Constraints are left open, and nothing else is.** The pattern of an error with constraints that a tactic left
behind accepts the text up to the first header and the text from the last footer on, each with other names and numbers,
and anything between them. That of an error with constraints without a solution accepts the text up to the first
header in this way, and anything behind it. Numbers stay in all of the text where they are what the error is about. -/
theorem generalizeBody_accepts_constraints (b : String) :
    (DiagnosticFamily.classify b = .unsatisfiedConstraints → ∀ x y z : List Char,
      b.toList = x ++ unsatisfiedHeader.toList ++ y ++ unsatisfiedFooter.toList ++ z →
        ∃ top middle bottom, Leftover b.toList top middle bottom ∧
          AcceptsTexts b fun w => ∃ w₁ any w₂, w = w₁ ++ any ++ w₂ ∧
            Variant (KeepsNumbers top ∨ KeepsNumbers bottom) top w₁ ∧
            Variant (KeepsNumbers top ∨ KeepsNumbers bottom) bottom w₂) ∧
    (DiagnosticFamily.classify b = .unsatisfiableConstraints → unsatisfiableHeader.toList <:+: b.toList →
      ∃ before after, FirstAt unsatisfiableHeader.toList b.toList before after ∧
        AcceptsTexts b fun w => ∃ w₁ any, w = w₁ ++ any ∧
          Variant (KeepsNumbers (before ++ unsatisfiableHeader.toList)) (before ++ unsatisfiableHeader.toList) w₁) := by
  constructor
  · intro hb x y z hsplit
    obtain ⟨top, middle, bottom, h⟩ := exists_leftover hsplit
    exact ⟨top, middle, bottom, h, acceptsTexts_leftover hb h⟩
  · intro hb hheader
    obtain ⟨before, after, h⟩ := exists_firstAt hheader
    exact ⟨before, after, h, acceptsTexts_unsatisfiable hb h⟩

/-- Constraints that name a number in the text around them, and constraints without a solution. -/
theorem generalizeBody_accepts_constraints_evars :
    (DiagnosticFamily.classify "Error: Unsatisfied constraints:\n?X12 : nat\n(maybe a bugged tactic) in tmp3."
        = .unsatisfiedConstraints ∧
      "Error: Unsatisfied constraints:\n?X12 : nat\n(maybe a bugged tactic) in tmp3.".toList =
        [] ++ unsatisfiedHeader.toList ++ "\n?X12 : nat\n".toList ++ unsatisfiedFooter.toList ++ " in tmp3.".toList ∧
      ∃ top middle bottom,
        Leftover "Error: Unsatisfied constraints:\n?X12 : nat\n(maybe a bugged tactic) in tmp3.".toList
          top middle bottom ∧
        AcceptsTexts "Error: Unsatisfied constraints:\n?X12 : nat\n(maybe a bugged tactic) in tmp3." fun w =>
          ∃ w₁ any w₂, w = w₁ ++ any ++ w₂ ∧
            Variant (KeepsNumbers top ∨ KeepsNumbers bottom) top w₁ ∧
            Variant (KeepsNumbers top ∨ KeepsNumbers bottom) bottom w₂) ∧
    (DiagnosticFamily.classify "Line 5. Error: Unable to satisfy the following constraints:\n?T : \"Type\""
        = .unsatisfiableConstraints ∧
      unsatisfiableHeader.toList <:+: "Line 5. Error: Unable to satisfy the following constraints:\n?T : \"Type\"".toList ∧
      ∃ before after,
        FirstAt unsatisfiableHeader.toList
          "Line 5. Error: Unable to satisfy the following constraints:\n?T : \"Type\"".toList before after ∧
        AcceptsTexts "Line 5. Error: Unable to satisfy the following constraints:\n?T : \"Type\"" fun w =>
          ∃ w₁ any, w = w₁ ++ any ∧
            Variant (KeepsNumbers (before ++ unsatisfiableHeader.toList)) (before ++ unsatisfiableHeader.toList) w₁) := by
  have hleft : DiagnosticFamily.classify
      "Error: Unsatisfied constraints:\n?X12 : nat\n(maybe a bugged tactic) in tmp3." = .unsatisfiedConstraints := by
    decide +kernel
  have hnone : DiagnosticFamily.classify
      "Line 5. Error: Unable to satisfy the following constraints:\n?T : \"Type\"" = .unsatisfiableConstraints := by
    decide +kernel
  have hheader : unsatisfiableHeader.toList <:+:
      "Line 5. Error: Unable to satisfy the following constraints:\n?T : \"Type\"".toList :=
    ⟨"Line 5. ".toList, "\n?T : \"Type\"".toList, by decide⟩
  have hsplit : "Error: Unsatisfied constraints:\n?X12 : nat\n(maybe a bugged tactic) in tmp3.".toList =
      [] ++ unsatisfiedHeader.toList ++ "\n?X12 : nat\n".toList ++ unsatisfiedFooter.toList ++ " in tmp3.".toList := by
    decide
  exact ⟨⟨hleft, hsplit, (generalizeBody_accepts_constraints _).1 hleft _ _ _ hsplit⟩,
    hnone, hheader, (generalizeBody_accepts_constraints _).2 hnone hheader⟩

end Diagnostics
