import Diagnostics.Proofs.Pattern.Match
import Diagnostics.Proofs.Template.Size

/-!
# A generalized pattern recognises the text it came from

The pattern made from an error text is always a pattern, unless the text is so long that it needs too much room. It
matches that text after any header, whatever follows, and reports the line number of the header.
-/

namespace Diagnostics

open ErrorPattern (Occurs First HasBody)

/-- A header in front of an error text is the first place where the pattern of the text can match. -/
theorem first_own_body {L : List Char → Prop} (h : Header) {b : List Char} (hb : L b) (s : List Char) :
    First L (h.chars ++ (b ++ s)) [] h b s :=
  { split := rfl, body := hb, le := fun _ => Nat.zero_le _ }

/-- **Generalizing loses no error.** The pattern of an error text has two groups, matches the text after any header
and before any other text, and reports the line number of that header. -/
theorem generalizeBody_recognises (b s : String) (h : Header)
    (hroom : ∀ source, ErrorPattern.ofBody (generalizeBody b) ≠ .error (.invalidPattern source .tooLarge)) :
    ∃ p, ErrorPattern.ofBody (generalizeBody b) = .ok p ∧ p.tree.captureCount = 2 ∧
      p.hasError (h.text ++ b ++ s) = true ∧ p.lineNumber (h.text ++ b ++ s) = h.lineNumber := by
  obtain ⟨p, hp, htree⟩ := (Template.ofBody_cases b).resolve_right fun h => h.2.elim hroom
  have hbody : p.HasBody (Template.ofBody b).Spells := ErrorPattern.hasBody_template htree
  have hfirst : First (Template.ofBody b).Spells (h.text ++ b ++ s).toList [] h b.toList s.toList := by
    have htext : (h.text ++ b ++ s).toList = h.chars ++ (b.toList ++ s.toList) := by simp [Header.text]
    rw [htext]
    exact first_own_body h (Template.spells_ofBody b) s.toList
  refine ⟨p, hp, ?_, ?_, ErrorPattern.lineNumber_eq hbody hfirst⟩
  · rw [htree, Template.captureCount_tree]
  · exact (ErrorPattern.hasError_iff hbody).2 ⟨_, _, _, _, hfirst.toOccurs⟩

/-- An error with a temporary name, a number and signs that mean something in a pattern. -/
theorem generalizeBody_recognises_unification :
    (∀ source, ErrorPattern.ofBody (generalizeBody "Error: In tmp3f_x: cannot unify \"?y@{12}\".") ≠
      .error (.invalidPattern source .tooLarge)) ∧
    ∃ p, ErrorPattern.ofBody (generalizeBody "Error: In tmp3f_x: cannot unify \"?y@{12}\".") = .ok p ∧
      p.tree.captureCount = 2 ∧
      p.hasError ("File \"a.v\", line 3, characters 0-5:\n" ++ "Error: In tmp3f_x: cannot unify \"?y@{12}\"."
        ++ "\nmore") = true ∧
      p.lineNumber ("File \"a.v\", line 3, characters 0-5:\n" ++ "Error: In tmp3f_x: cannot unify \"?y@{12}\"."
        ++ "\nmore") = .ok 3 := by
  have hroom := Template.not_tooLarge_of_length_le "Error: In tmp3f_x: cannot unify \"?y@{12}\"." (by decide)
  exact ⟨hroom, generalizeBody_recognises "Error: In tmp3f_x: cannot unify \"?y@{12}\"." "\nmore"
    ⟨"a.v".toList, "3".toList, "0-5".toList, by decide, by simp, by decide, by simp, by decide, by simp⟩ hroom⟩

end Diagnostics
