import Diagnostics.Unicode.Digit
import Diagnostics.Unicode.Space

/-!
# White space

No digit is white space. Trimming takes white space away at both ends and nothing else, and no white space is left
at the start.
-/

namespace Diagnostics.Unicode

/-- A code point of a table lies in one of its ranges. -/
theorem exists_range {r : Ranges} {n : Nat} (h : r.contains n = true) : ∃ p ∈ r, p.1 ≤ n ∧ n ≤ p.2 := by
  induction r with
  | nil => cases h
  | cons p r ih =>
    obtain ⟨lo, hi⟩ := p
    rw [Ranges.contains] at h
    split at h
    · cases h
    · rename_i hlo
      split at h
      · rename_i hhi
        exact ⟨(lo, hi), by simp, Nat.le_of_not_lt hlo, hhi⟩
      · obtain ⟨q, hq, hn⟩ := ih h
        exact ⟨q, List.mem_cons_of_mem _ hq, hn⟩

/-- No digit of any script is white space: the two tables have no range in common. -/
theorem isSpace_of_isDigit {c : Char} (h : isDigit c = true) : isSpace c = false := by
  have hdisjoint : ∀ p ∈ decimalDigits, ∀ q ∈ whiteSpace, p.2 < q.1 ∨ q.2 < p.1 := by decide +kernel
  rw [← Bool.not_eq_true]
  intro hspace
  obtain ⟨p, hp, hp1, hp2⟩ := exists_range h
  obtain ⟨q, hq, hq1, hq2⟩ := exists_range hspace
  have := hdisjoint p hp q hq
  omega

/-- The text does not begin with white space. -/
def StartsSolid (cs : List Char) : Prop := ∀ c, cs.head? = some c → isSpace c = false

theorem startsSolid_dropWhile (cs : List Char) : StartsSolid (cs.dropWhile isSpace) := by
  induction cs with
  | nil => simp [StartsSolid]
  | cons c cs ih =>
    rw [List.dropWhile_cons]
    split
    · exact ih
    · rename_i hc
      simpa [StartsSolid] using hc

/-- A text is some beginning and then white space up to its end. -/
theorem exists_trailing (cs : List Char) :
    ∃ trail, cs = (cs.reverse.dropWhile isSpace).reverse ++ trail ∧ ∀ c ∈ trail, isSpace c = true := by
  refine ⟨(cs.reverse.takeWhile isSpace).reverse, ?_, fun c hc => ?_⟩
  · rw [← List.reverse_append, List.takeWhile_append_dropWhile, List.reverse_reverse]
  · have hall := List.all_takeWhile (l := cs.reverse) (p := isSpace)
    exact List.all_eq_true.1 hall c (List.mem_reverse.1 hc)

/-- **What trimming takes away** is white space at the two ends. -/
theorem trim_spec (s : String) : ∃ lead trail, s.toList = lead ++ ((trim s).toList ++ trail) ∧
    (∀ c ∈ lead, isSpace c = true) ∧ (∀ c ∈ trail, isSpace c = true) ∧ StartsSolid (trim s).toList := by
  obtain ⟨trail, hsplit, htrail⟩ := exists_trailing (s.toList.dropWhile isSpace)
  have htrim : (trim s).toList = ((s.toList.dropWhile isSpace).reverse.dropWhile isSpace).reverse := by
    rw [trim, String.toList_ofList]
  refine ⟨s.toList.takeWhile isSpace, trail, ?_, fun c hc => ?_, htrail, fun c hc => ?_⟩
  · rw [htrim, ← hsplit, List.takeWhile_append_dropWhile]
  · exact List.all_eq_true.1 List.all_takeWhile c hc
  · rw [← htrim] at hsplit
    refine startsSolid_dropWhile s.toList c ?_
    rw [hsplit, List.head?_append, hc, Option.some_or]

theorem length_trim_le (s : String) : (trim s).length ≤ s.length := by
  obtain ⟨lead, trail, hsplit, -⟩ := trim_spec s
  have hlen := congrArg List.length hsplit
  simp only [List.length_append, String.length_toList] at hlen
  omega

/-- A text that does not begin with white space, or is nothing else, begins with what trimming leaves of it. -/
theorem exists_trailing_trim {s : String} (h : trim s = "" ∨ StartsSolid s.toList) :
    ∃ trail, s.toList = (trim s).toList ++ trail := by
  rcases h with h | h
  · exact ⟨s.toList, by rw [h]; rfl⟩
  · obtain ⟨lead, trail, hsplit, hlead, -, -⟩ := trim_spec s
    cases lead with
    | nil => exact ⟨trail, by rw [hsplit, List.nil_append]⟩
    | cons c lead =>
      have hc : isSpace c = false := h c (by rw [hsplit]; rfl)
      rw [hlead c (by simp)] at hc
      cases hc

end Diagnostics.Unicode
