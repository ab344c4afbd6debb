import Diagnostics.Proofs.Generalize.OwnBody
import Diagnostics.Proofs.Pattern.Default
import Diagnostics.Proofs.Template.Start
import Mathlib.Data.List.Count

/-!
# A generalized pattern and the output it came from

The error that is generalized is the first that the default pattern finds, and its text is trimmed before it becomes
a pattern. The pattern asks for the trimmed text right after the header. So it finds the error again if no white
space stood between the two; otherwise the error is passed over, and at most a later error is found
(`occurs_after_header`).
-/

namespace Diagnostics

open ErrorPattern (Occurs First HasBody)
open Unicode (StartsSolid isSpace)

/-! ## Headers do not overlap at the end -/

namespace Header

theorem count_quote (h : Header) : h.chars.count '"' = 2 := by
  have hpath : h.path.count '"' = 0 := List.count_eq_zero.2 fun hmem => h.path_mem '"' hmem rfl
  have hline : h.line.count '"' = 0 := List.count_eq_zero.2 fun hmem => absurd (h.line_mem '"' hmem) (by decide)
  have hrange : h.range.count '"' = 0 := List.count_eq_zero.2 fun hmem => absurd (h.range_mem '"' hmem) (by decide)
  have hopen : "File \"".toList.count '"' = 1 := by decide
  have hmiddle : "\", line ".toList.count '"' = 1 := by decide
  have hchars : ", characters ".toList.count '"' = 0 := by decide
  have hend : ":\n".toList.count '"' = 0 := by decide
  unfold chars beforeLine afterLine
  simp only [List.count_append, hpath, hline, hrange, hopen, hmiddle, hchars, hend]

/-- Five characters stand in front of the first quote of a header. -/
theorem takeWhile_quote (h : Header) (x : List Char) :
    (h.chars ++ x).takeWhile (· != '"') = ['F', 'i', 'l', 'e', ' '] := by
  have hopen : "File \"".toList = ['F', 'i', 'l', 'e', ' ', '"'] := by decide
  rw [chars_append, hopen]
  rfl

/-- **No header begins behind one after which no quote follows.** -/
theorem length_le_of_no_quote {h h' : Header} {pre pre' x x' : List Char}
    (heq : pre ++ (h.chars ++ x) = pre' ++ (h'.chars ++ x')) (hx : '"' ∉ x') : pre.length ≤ pre'.length := by
  rcases Nat.le_total pre.length pre'.length with hle | hle
  · exact hle
  have hprefix : pre' <+: pre :=
    List.prefix_of_prefix_length_le ⟨_, heq.symm⟩ (List.prefix_append pre (h.chars ++ x)) hle
  obtain ⟨mid, rfl⟩ := hprefix
  rw [List.append_assoc] at heq
  have hrest := List.append_cancel_left heq
  -- both headers have two quotes and nothing behind the second has any, so none stands between their starts
  have hcount := congrArg (List.count '"') hrest
  simp only [List.count_append, count_quote, List.count_eq_zero.2 hx] at hcount
  have hmid : ∀ c ∈ mid, (c != '"') = true := by
    have hzero : mid.count '"' = 0 := by omega
    intro c hc
    rw [bne_iff_ne]
    rintro rfl
    exact List.count_eq_zero.1 hzero hc
  have hfirst := congrArg (List.takeWhile (· != '"')) hrest
  rw [List.takeWhile_append_of_pos hmid, takeWhile_quote, takeWhile_quote] at hfirst
  have hlen := congrArg List.length hfirst
  simp only [List.length_append, List.length_cons, List.length_nil] at hlen ⊢
  omega

end Header

/-! ## Where the pattern can match -/

section
variable {L : List Char → Prop} {output pre pre' w' post' body : List Char} {h h' : Header}

/-- No pattern with a header matches in front of the first place of the default pattern. -/
theorem default_first_le (hf : First (· ≠ []) output pre h body []) (hocc : Occurs L output pre' h' w' post') :
    pre.length ≤ pre'.length := by
  by_cases hrest : w' ++ post' = []
  · -- that header would end the output, and the first one begins behind it
    have heq : pre ++ (h.chars ++ (body ++ [])) = pre' ++ (h'.chars ++ (w' ++ post')) :=
      hf.split.symm.trans hocc.split
    exact Header.length_le_of_no_quote heq (by rw [hrest]; simp)
  · exact hf.le ⟨by rw [List.append_nil]; exact hocc.split, hrest⟩

/-- The pattern matches at the first place of the default pattern if its body begins the body found there. -/
theorem first_of_prefix (hf : First (· ≠ []) output pre h body []) {b trail : List Char} (hb : L b)
    (hbody : body = b ++ trail) : First L output pre h b trail :=
  { split := by rw [hf.split, hbody, List.append_nil], body := hb, le := fun hocc => default_first_le hf hocc }

/-- **White space behind the header is not matched.** If the body begins with white space and the pattern's own body
never does, the pattern can match behind the start of that header only. -/
theorem occurs_after_header (hf : First (· ≠ []) output pre h body []) (hspace : ¬ StartsSolid body)
    (hL : ∀ w, L w → ∃ c v, w = c :: v ∧ isSpace c = false) (hocc : Occurs L output pre' h' w' post') :
    pre.length < pre'.length := by
  refine Nat.lt_of_le_of_ne (default_first_le hf hocc) fun hlen => hspace ?_
  obtain ⟨-, hrest⟩ := List.append_inj (hf.split.symm.trans hocc.split) hlen
  obtain ⟨-, hbody⟩ := Header.append_inj hrest
  obtain ⟨c, v, rfl, hc⟩ := hL w' hocc.body
  rw [List.append_nil] at hbody
  rw [hbody]
  simpa [StartsSolid] using hc

end

/-! ## The pattern of an output -/

/-- The error text begins right behind its header, or it is white space throughout. -/
def Flush (body : String) : Prop := Unicode.trim body = "" ∨ StartsSolid body.toList

/-- What is generalized is the trimmed text of the first error. -/
theorem generalize_eq {o body : String} (ho : ErrorPattern.default.errorBody o = .ok body) :
    generalize o = ErrorPattern.ofBody (generalizeBody (Unicode.trim body)) := by
  rw [generalize, ho]
  rfl

/-- The first place of the default pattern gives the error that is generalized. -/
theorem errorBody_of_first {o : String} {pre body : List Char} {h : Header}
    (hf : First (· ≠ []) o.toList pre h body []) :
    ErrorPattern.default.hasError o = true ∧ ErrorPattern.default.errorBody o = .ok (String.ofList body) := by
  have ho := (ErrorPattern.hasError_iff ErrorPattern.hasBody_default).2 ⟨_, _, _, _, hf.toOccurs⟩
  obtain ⟨pre', h', body', hf', -, hbody⟩ := ErrorPattern.default_find ho
  obtain ⟨-, -, heq⟩ := hf.unique hf'
  rw [List.append_nil, List.append_nil] at heq
  exact ⟨ho, by rw [hbody, heq]⟩

/-- The pattern of an error with white space in front matches behind the header of that error only. -/
theorem behind_of_not_flush {o : String} {pre body : List Char} {h : Header}
    (hf : First (· ≠ []) o.toList pre h body []) (hflush : ¬ Flush (String.ofList body))
    {pre' w' post' : List Char} {h' : Header}
    (hocc : Occurs (Template.ofBody (Unicode.trim (String.ofList body))).Spells o.toList pre' h' w' post') :
    pre.length < pre'.length := by
  simp only [Flush, not_or, String.toList_ofList] at hflush
  obtain ⟨-, -, -, -, -, hsolid⟩ := Unicode.trim_spec (String.ofList body)
  exact occurs_after_header hf hflush.2
    (fun w hw => Template.startsSolid_of_spells_ofBody (mt String.toList_eq_nil_iff.1 hflush.1) hsolid hw) hocc

/-- **A pattern finds the error that it came from**, with the same line number, if and only if the text of the error
began right behind its header or was nothing but white space; or else a later error of the output passes for it
and has the same line number. Only for a long text may there be no pattern, as it would be too large. -/
theorem generalize_recognises_iff (o : String) (ho : ErrorPattern.default.hasError o = true) :
    ∃ (pre : List Char) (h : Header) (body : String), o.toList = pre ++ (h.chars ++ body.toList) ∧
      ErrorPattern.default.errorBody o = .ok body ∧ ErrorPattern.default.lineNumber o = h.lineNumber ∧
      ((∃ p, generalize o = .ok p ∧
        ((p.hasError o = true ∧ p.lineNumber o = ErrorPattern.default.lineNumber o) ↔
          Flush body ∨
            (p.hasError (String.ofList (o.toList.drop (pre.length + 1))) = true ∧
              p.lineNumber (String.ofList (o.toList.drop (pre.length + 1))) =
                ErrorPattern.default.lineNumber o))) ∨
        100000 < body.length ∧ ∃ source, generalize o = .error (.invalidPattern source .tooLarge)) := by
  obtain ⟨pre, h, body, hf, hline, hbody⟩ := ErrorPattern.default_find ho
  have hgen := generalize_eq hbody
  refine ⟨pre, h, String.ofList body, ?_, hbody, hline, ?_⟩
  · rw [String.toList_ofList, hf.split, List.append_nil]
  rw [hgen]
  refine (Template.ofBody_cases _).imp ?_ fun ⟨hlong, htoo⟩ =>
    ⟨Nat.lt_of_lt_of_le hlong (Unicode.length_trim_le _), htoo⟩
  rintro ⟨p, hp, htree⟩
  have hL : p.HasBody (Template.ofBody (Unicode.trim (String.ofList body))).Spells :=
    ErrorPattern.hasBody_template htree
  refine ⟨p, hp, ?_⟩
  by_cases hflush : Flush (String.ofList body)
  · obtain ⟨trail, htrail⟩ := Unicode.exists_trailing_trim hflush
    rw [String.toList_ofList] at htrail
    have hfirst := first_of_prefix hf (Template.spells_ofBody _) htrail
    refine iff_of_true ⟨?_, ?_⟩ (.inl hflush)
    · exact (ErrorPattern.hasError_iff hL).2 ⟨_, _, _, _, hfirst.toOccurs⟩
    · rw [ErrorPattern.lineNumber_eq hL hfirst, hline]
  · obtain ⟨herror, hnumber⟩ := ErrorPattern.lineNumber_drop hL (n := pre.length + 1)
      fun hocc => behind_of_not_flush hf hflush hocc
    rw [herror, or_iff_right hflush]
    exact and_congr_right fun he => by rw [hnumber he]

/-- An output whose error begins right behind its header. -/
theorem generalize_recognises_iff_syntax :
    ErrorPattern.default.hasError "File \"a.v\", line 7, characters 0-1:\nError: Syntax error\n" = true ∧
    ∃ (pre : List Char) (h : Header) (body : String),
      "File \"a.v\", line 7, characters 0-1:\nError: Syntax error\n".toList = pre ++ (h.chars ++ body.toList) ∧
      ErrorPattern.default.errorBody "File \"a.v\", line 7, characters 0-1:\nError: Syntax error\n" = .ok body ∧
      ErrorPattern.default.lineNumber "File \"a.v\", line 7, characters 0-1:\nError: Syntax error\n" = h.lineNumber ∧
      ((∃ p, generalize "File \"a.v\", line 7, characters 0-1:\nError: Syntax error\n" = .ok p ∧
        ((p.hasError "File \"a.v\", line 7, characters 0-1:\nError: Syntax error\n" = true ∧
            p.lineNumber "File \"a.v\", line 7, characters 0-1:\nError: Syntax error\n" =
              ErrorPattern.default.lineNumber "File \"a.v\", line 7, characters 0-1:\nError: Syntax error\n") ↔
          Flush body ∨
            (p.hasError (String.ofList
                ("File \"a.v\", line 7, characters 0-1:\nError: Syntax error\n".toList.drop (pre.length + 1))) = true ∧
              p.lineNumber (String.ofList
                ("File \"a.v\", line 7, characters 0-1:\nError: Syntax error\n".toList.drop (pre.length + 1))) =
                ErrorPattern.default.lineNumber "File \"a.v\", line 7, characters 0-1:\nError: Syntax error\n"))) ∨
        100000 < body.length ∧ ∃ source,
          generalize "File \"a.v\", line 7, characters 0-1:\nError: Syntax error\n" =
            .error (.invalidPattern source .tooLarge)) := by
  have hf : First (· ≠ []) "File \"a.v\", line 7, characters 0-1:\nError: Syntax error\n".toList []
      ⟨"a.v".toList, "7".toList, "0-1".toList, by decide, by simp, by decide, by simp, by decide, by simp⟩
      "Error: Syntax error\n".toList [] :=
    { split := by decide, body := by decide, le := fun _ => Nat.zero_le _ }
  have ho := (errorBody_of_first hf).1
  exact ⟨ho, generalize_recognises_iff _ ho⟩

/-- **An error with white space in front is not found again** in an output that has no quote behind its header, so
no other header. -/
theorem not_hasError_of_space {o : String} {pre body : List Char} {h : Header}
    (hf : First (· ≠ []) o.toList pre h body []) (hflush : ¬ Flush (String.ofList body)) (hquote : '"' ∉ body)
    {p : ErrorPattern} (hp : generalize o = .ok p) : p.hasError o = false := by
  have htree : p.tree = (Template.ofBody (Unicode.trim (String.ofList body))).tree := by
    rw [generalize_eq (errorBody_of_first hf).2] at hp
    rcases Template.ofBody_cases (Unicode.trim (String.ofList body)) with ⟨q, hq, htree⟩ | ⟨-, source, herror⟩
    · cases hq.symm.trans hp
      exact htree
    · cases herror.symm.trans hp
  rw [← Bool.not_eq_true, ErrorPattern.hasError_iff (ErrorPattern.hasBody_template htree)]
  rintro ⟨pre', h', w', post', hocc⟩
  have hbehind := behind_of_not_flush hf hflush hocc
  have hfront := Header.length_le_of_no_quote (hocc.split.symm.trans hf.split) (by simpa using hquote)
  omega

/-- The error text of this output stands behind white space, and the pattern made from it does not match the
output. -/
theorem generalize_misses_spaced :
    ErrorPattern.default.hasError "File \"a.v\", line 1, characters 0-1:\n   Error: spaced   \n\n" = true ∧
    ¬ ∃ p, generalize "File \"a.v\", line 1, characters 0-1:\n   Error: spaced   \n\n" = .ok p ∧
      p.hasError "File \"a.v\", line 1, characters 0-1:\n   Error: spaced   \n\n" = true ∧
      p.lineNumber "File \"a.v\", line 1, characters 0-1:\n   Error: spaced   \n\n" =
        ErrorPattern.default.lineNumber "File \"a.v\", line 1, characters 0-1:\n   Error: spaced   \n\n" := by
  have hf : First (· ≠ []) "File \"a.v\", line 1, characters 0-1:\n   Error: spaced   \n\n".toList []
      ⟨"a.v".toList, "1".toList, "0-1".toList, by decide, by simp, by decide, by simp, by decide, by simp⟩
      "   Error: spaced   \n\n".toList [] :=
    { split := by decide, body := by decide, le := fun _ => Nat.zero_le _ }
  have hflush : ¬ Flush (String.ofList "   Error: spaced   \n\n".toList) := by
    rintro (htrim | hsolid)
    · exact absurd htrim (by decide +kernel)
    · exact absurd (hsolid ' ' (by decide)) (by decide)
  refine ⟨(errorBody_of_first hf).1, ?_⟩
  rintro ⟨p, hp, hmatch, -⟩
  rw [not_hasError_of_space hf hflush (by decide) hp] at hmatch
  cases hmatch

end Diagnostics
