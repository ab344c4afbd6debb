import Diagnostics.Proofs.Template.Own
import Diagnostics.Proofs.Template.Rewriting

/-!
# How large the pattern of an error text is

A template has at most one part more than its text has characters, and each part takes a few states of the pattern.
So an error text has to be very long before its pattern is refused for its size (`ofBody_cases`).
-/

namespace Diagnostics

open Regex (Ast)

theorem Part.weight_elements (p : Part) : (Ast.sequence p.elements).weight ≤ 7 := by
  cases p with
  | char c => exact Nat.le_of_ble_eq_true rfl
  | tempName => decide
  | number => decide
  | stem => decide
  | anything => decide

namespace Template

open Rewrite (isTempChar)

theorem weight_elements : ∀ t : Template, (Ast.sequence t.elements).weight ≤ 7 * t.length + 1
  | [] => Nat.le_refl _
  | p :: t => by
    have ih := weight_elements t
    have hp := p.weight_elements
    have happend := Regex.weight_append_le p.elements (elements t)
    unfold elements at ih happend ⊢
    rw [List.flatMap_cons, List.length_cons]
    omega

/-- The weight of the pattern of a template. -/
theorem weight_tree (t : Template) : t.tree.weight ≤ 7 * t.length + 100 := by
  have hheader : (Ast.sequence ErrorPattern.header).weight ≤ 90 := by decide
  have htree := Regex.weight_append_le ErrorPattern.header [.capture 2 (Ast.sequence t.elements)]
  have helements := t.weight_elements
  simp only [Ast.sequence, Ast.weight] at htree
  unfold tree ErrorPattern.bodyTree
  omega

/-! ## The number of parts -/

theorem length_dropWhile_le (p : Part → Bool) (t : Template) : (t.dropWhile p).length ≤ t.length :=
  (List.dropWhile_suffix p).length_le

theorem length_openTempNames (t : Template) : (openTempNames t).length ≤ t.length := by
  induction t using openTempNames.induct with
  | case1 => exact Nat.le_of_eq (congrArg List.length openTempNames.eq_1)
  | case2 c rest hc ih =>
    have hdrop := length_dropWhile_le (Part.isChar isTempChar) rest
    rw [openTempNames, if_pos hc]
    simp only [List.length_cons]
    omega
  | case3 c rest hc ih =>
    rw [openTempNames, if_neg hc]
    simp only [List.length_cons] at ih ⊢
    omega
  | case4 part rest hno ih =>
    rw [openTempNames]
    · simp only [List.length_cons]
      omega
    · exact hno

theorem length_openNumbers (t : Template) : (openNumbers t).length ≤ t.length := by
  induction t using openNumbers.induct with
  | case1 => exact Nat.le_of_eq (congrArg List.length openNumbers.eq_1)
  | case2 c rest hc ih =>
    have hdrop := length_dropWhile_le (Part.isChar Char.isDigit) rest
    rw [openNumbers, if_pos hc]
    simp only [List.length_cons]
    omega
  | case3 c rest hc ih =>
    rw [openNumbers, if_neg hc]
    simp only [List.length_cons]
    omega
  | case4 part rest hno ih =>
    rw [openNumbers]
    · simp only [List.length_cons]
      omega
    · exact hno

@[simp] theorem length_literal (cs : List Char) : (literal cs).length = cs.length := List.length_map _

theorem length_openStem (word : List Char) : (openStem word).length ≤ word.length := by
  unfold openStem
  split
  · rename_i rest h
    obtain ⟨stem, rfl, hne⟩ := afterStem?_eq_some h
    have := List.length_pos_iff.2 (hne rfl)
    simp only [List.length_cons, length_literal, List.length_append]
    omega
  · simp

theorem length_openStemsFrom (cs : List Char) : ∀ word : List Char,
    (openStemsFrom word cs).length ≤ word.length + cs.length := by
  induction cs with
  | nil => exact fun word => by simpa [openStemsFrom] using length_openStem word.reverse
  | cons c cs ih =>
    intro word
    rw [openStemsFrom]
    split
    · have hword := length_openStem word.reverse
      have hrest := ih []
      simp only [List.length_append, List.length_cons, List.length_reverse, List.length_nil] at *
      omega
    · have hrest := ih (c :: word)
      simp only [List.length_cons] at *
      omega

theorem length_ofFamily (family : DiagnosticFamily) (cs : List Char) : (ofFamily family cs).length ≤ cs.length + 1 := by
  cases family with
  | universeInconsistency =>
    obtain ⟨rest, hcs, -⟩ := cutExplanation_spec cs
    have hlen := congrArg List.length hcs
    have hstems := length_openStemsFrom (cutExplanation cs).1 []
    show (openStems (cutExplanation cs).1 ++ if (cutExplanation cs).2 then [Part.anything] else []).length ≤ _
    rw [List.length_append] at *
    simp only [openStems, List.length_nil] at *
    split <;> simp only [List.length_cons, List.length_nil] <;> omega
  | unsatisfiedConstraints =>
    show (ofUnsatisfied cs).length ≤ _
    unfold ofUnsatisfied
    split
    · simp
    · rename_i before after hheader
      split
      · simp
      · rename_i between rest hfooter
        have hlen := congrArg List.length (cutAtFirst?_eq_some hheader)
        have hlen' := congrArg List.length (cutAtLast?_eq_some hfooter)
        simp only [List.length_append, List.length_cons, length_literal] at *
        omega
  | unsatisfiableConstraints =>
    show (ofUnsatisfiable cs).length ≤ _
    unfold ofUnsatisfiable
    split
    · simp
    · rename_i before rest hheader
      have hlen := congrArg List.length (cutAtFirst?_eq_some hheader)
      simp only [List.length_append, List.length_cons, List.length_nil, length_literal] at *
      omega
  | other => simp [ofFamily]

theorem length_ofBody (body : String) : (ofBody body).length ≤ body.length + 1 := by
  have hfamily := length_ofFamily (DiagnosticFamily.classify body) body.toList
  have hnames := length_openTempNames (ofFamily (DiagnosticFamily.classify body) body.toList)
  have hnumbers := length_openNumbers (openTempNames (ofFamily (DiagnosticFamily.classify body) body.toList))
  rw [String.length_toList] at hfamily
  simp only [ofBody]
  split <;> omega

/-- **The pattern of an error text** has the tree of its template. Only that of a long text may be refused, and only
for its size. -/
theorem ofBody_cases (body : String) :
    (∃ p, ErrorPattern.ofBody (generalizeBody body) = .ok p ∧ p.tree = (ofBody body).tree) ∨
      100000 < body.length ∧ ∃ source,
        ErrorPattern.ofBody (generalizeBody body) = .error (.invalidPattern source .tooLarge) := by
  rw [generalizeBody_eq]
  rcases ofBody_source (ofBody body) with hp | ⟨hlarge, herror⟩
  · exact .inl hp
  · refine .inr ⟨?_, _, herror⟩
    have hweight := weight_tree (ofBody body)
    have hlength := length_ofBody body
    simp only [Ast.weightLimit] at hlarge
    omega

theorem not_tooLarge_of_length_le (body : String) (h : body.length ≤ 100000) (source : String) :
    ErrorPattern.ofBody (generalizeBody body) ≠ .error (.invalidPattern source .tooLarge) := by
  intro herror
  rcases ofBody_cases body with ⟨p, hp, -⟩ | ⟨hlong, -⟩
  · cases hp.symm.trans herror
  · omega

end Template

end Diagnostics
