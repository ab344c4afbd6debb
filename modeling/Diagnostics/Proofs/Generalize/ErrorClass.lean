import Diagnostics.Proofs.Generalize.OwnBody
import Diagnostics.Proofs.Template.Variant

/-!
# The errors that a generalized pattern accepts

For an error of no special family the outputs that its pattern accepts are known exactly: those in which a header is
followed by a variant of the error text.
-/

namespace Diagnostics

open ErrorPattern (Occurs)
open Template (Variant KeepsNumbers)

/-- **A generalized pattern accepts its class of errors**, nothing more and nothing less: outputs with a header
followed by the error text with other temporary names and, unless the error is about them, other numbers. Only for a
long text may there be no pattern, as it would be too large. -/
theorem generalizeBody_accepts_iff (b o : String) (hb : DiagnosticFamily.classify b = .other) :
    (∃ p, ErrorPattern.ofBody (generalizeBody b) = .ok p ∧
      (p.hasError o = true ↔ ∃ (pre : List Char) (h : Header) (w post : List Char),
        o.toList = pre ++ (h.chars ++ (w ++ post)) ∧ Variant (KeepsNumbers b.toList) b.toList w)) ∨
      100000 < b.length ∧ ∃ source,
        ErrorPattern.ofBody (generalizeBody b) = .error (.invalidPattern source .tooLarge) := by
  refine (Template.ofBody_cases b).imp_left ?_
  rintro ⟨p, hp, htree⟩
  refine ⟨p, hp, ?_⟩
  rw [ErrorPattern.hasError_iff (ErrorPattern.hasBody_template htree)]
  constructor
  · rintro ⟨pre, h, w, post, hsplit, hw⟩
    exact ⟨pre, h, w, post, hsplit, (Template.spells_ofBody_iff_variant hb).1 hw⟩
  · rintro ⟨pre, h, w, post, hsplit, hw⟩
    exact ⟨pre, h, w, post, hsplit, (Template.spells_ofBody_iff_variant hb).2 hw⟩

/-- An error about the length of a universe instance, whose numbers stay. -/
theorem generalizeBody_accepts_iff_instance :
    DiagnosticFamily.classify "Error: Universe instance should have length 1 in tmp7." = .other ∧
    ∃ p, ErrorPattern.ofBody (generalizeBody "Error: Universe instance should have length 1 in tmp7.") = .ok p ∧
      (p.hasError "File \"b.v\", line 1, characters 2-3:\nError: Universe instance should have length 1 in tmp٣." =
          true ↔ ∃ (pre : List Char) (h : Header) (w post : List Char),
        "File \"b.v\", line 1, characters 2-3:\nError: Universe instance should have length 1 in tmp٣.".toList =
            pre ++ (h.chars ++ (w ++ post)) ∧
          Variant (KeepsNumbers "Error: Universe instance should have length 1 in tmp7.".toList)
            "Error: Universe instance should have length 1 in tmp7.".toList w) := by
  have hb : DiagnosticFamily.classify "Error: Universe instance should have length 1 in tmp7." = .other := by
    decide +kernel
  exact ⟨hb, (generalizeBody_accepts_iff _ _ hb).resolve_right fun h => absurd h.1 (by decide)⟩

end Diagnostics
