import Diagnostics.Proofs.Pattern.Scanner
import Diagnostics.Proofs.Regex.Groups

/-!
# Finding an error and taking it apart

That a pattern matches an output does not say that both of its groups take part in the match: one may stand in a choice or
in an optional part. Taking the error apart fails, as if nothing matched, exactly if a group is passed by
(`errorBody_eq_noMatch_iff`, `lineNumber_eq_noMatch_iff`). So finding an error and taking it apart agree for a pattern that
requires both groups, and they agree for the default pattern and for those made from error texts, whose groups are
never passed by (`agrees_of_hasBody`). They do not agree for every pattern (`found_without_body`).
-/

namespace Diagnostics.ErrorPattern

/-- The pattern matches the output, and the group takes part in the match that is found. -/
def TakesPart (p : ErrorPattern) (o : String) (index : Nat) : Prop :=
  ∃ m, p.find? o = some m ∧ (m.group? index).isSome = true

/-- Where the pattern finds an error, its text can be told, its line number can be told or is invalid, and nothing that
is asked about it fails for want of a match. -/
def Agrees (p : ErrorPattern) (o : String) : Prop :=
  p.hasError o = true →
    (∃ body, p.errorBody o = .ok body) ∧
    ((∃ n, p.lineNumber o = .ok n) ∨ ∃ text, p.lineNumber o = .error (.invalidLineNumber text)) ∧
    ∀ source, p.findError o ≠ .error (.noMatch source)

variable {p : ErrorPattern} {o : String} {index : Nat}

/-- A source text that is accepted makes the pattern with that source. -/
theorem ofSource_source (p : ErrorPattern) : ofSource p.source = .ok p := by
  unfold ofSource
  split
  · exact congrArg Except.ok (eq_of_source_eq rfl)
  · rename_i cause hcause
    cases p.reads.symm.trans hcause

/-! ## Groups -/

theorem hasError_of_takesPart (h : p.TakesPart o index) : p.hasError o = true := by
  obtain ⟨m, hm, -⟩ := h
  rw [hasError, hm]
  rfl

/-- A group that takes part has a text. -/
theorem groupText_of_takesPart (h : p.TakesPart o index) : ∃ text, p.groupText o index = .ok text := by
  obtain ⟨m, hm, hpart⟩ := h
  obtain ⟨bounds, hbounds⟩ := Option.isSome_iff_exists.1 hpart
  refine ⟨Regex.slice o.toList.toArray bounds.1 bounds.2, ?_⟩
  rw [groupText, hm, Option.bind_some, Regex.Match.text?, hbounds]
  rfl

/-- A group that takes no part is answered as if nothing matched. -/
theorem groupText_of_not_takesPart (h : ¬ p.TakesPart o index) : p.groupText o index = .error (.noMatch p.source) := by
  rw [groupText]
  cases hm : p.find? o with
  | none => rfl
  | some m =>
    have hnone : m.group? index = none := by
      rw [← Option.not_isSome_iff_eq_none]
      exact fun hpart => h ⟨m, hm, hpart⟩
    rw [Option.bind_some, Regex.Match.text?, hnone]
    rfl

/-- **The text of an error is missing** exactly if the second group takes no part in a match. -/
theorem errorBody_eq_noMatch_iff : p.errorBody o = .error (.noMatch p.source) ↔ ¬ p.TakesPart o 2 := by
  refine ⟨fun h hpart => ?_, groupText_of_not_takesPart⟩
  obtain ⟨text, htext⟩ := groupText_of_takesPart hpart
  cases h.symm.trans htext

/-- The line number of an error is that of the first group, or it is invalid. -/
theorem lineNumber_of_takesPart (h : p.TakesPart o 1) :
    (∃ n, p.lineNumber o = .ok n) ∨ ∃ text, p.lineNumber o = .error (.invalidLineNumber text) := by
  obtain ⟨text, htext⟩ := groupText_of_takesPart h
  rw [lineNumber, htext]
  simp only [bind, Except.bind]
  cases Numeral.read? Numeral.limit64 text with
  | some n => exact .inl ⟨n, rfl⟩
  | none => exact .inr ⟨text, rfl⟩

/-- **The line number of an error is missing** exactly if the first group takes no part in a match. -/
theorem lineNumber_eq_noMatch_iff : p.lineNumber o = .error (.noMatch p.source) ↔ ¬ p.TakesPart o 1 := by
  refine ⟨fun h hpart => ?_, fun h => ?_⟩
  · rcases lineNumber_of_takesPart hpart with ⟨n, hn⟩ | ⟨text, htext⟩
    · cases h.symm.trans hn
    · cases h.symm.trans htext
  · rw [lineNumber, groupText_of_not_takesPart h]
    rfl

/-! ## Agreement -/

/-- **Finding and taking apart agree on an output** exactly if both groups take part in the match that is found. -/
theorem agrees_iff : p.Agrees o ↔ (p.hasError o = true → p.TakesPart o 1 ∧ p.TakesPart o 2) := by
  refine forall_congr' fun hfound => ⟨?_, ?_⟩
  · rintro ⟨⟨body, hbody⟩, hline, -⟩
    constructor
    · by_contra hpart
      have hmissing := lineNumber_eq_noMatch_iff.2 hpart
      rcases hline with ⟨n, hn⟩ | ⟨text, htext⟩
      · cases hmissing.symm.trans hn
      · cases hmissing.symm.trans htext
    · by_contra hpart
      cases (errorBody_eq_noMatch_iff.2 hpart).symm.trans hbody
  · rintro ⟨hfirst, hsecond⟩
    obtain ⟨body, hbody⟩ : ∃ body, p.errorBody o = .ok body := groupText_of_takesPart hsecond
    have hline := lineNumber_of_takesPart hfirst
    refine ⟨⟨body, hbody⟩, hline, fun source => ?_⟩
    rw [findError_of_hasError hfound hbody]
    rcases hline with ⟨n, hn⟩ | ⟨text, htext⟩
    · rw [hn]
      nofun
    · rw [htext]
      nofun

/-- They agree for a pattern that requires both groups. -/
theorem agrees_of_requires (hfirst : p.regex.requires 1 = true) (hsecond : p.regex.requires 2 = true) :
    p.Agrees o := by
  refine agrees_iff.2 fun hfound => ?_
  obtain ⟨m, hm⟩ := Option.isSome_iff_exists.1 hfound
  exact ⟨⟨m, hm, Regex.takesPart_of_requires hm hfirst⟩, ⟨m, hm, Regex.takesPart_of_requires hm hsecond⟩⟩

/-- They agree for a pattern with the usual header and a body without groups of its own. -/
theorem agrees_of_hasBody {L : List Char → Prop} (hp : p.HasBody L) : p.Agrees o := by
  refine agrees_iff.2 fun hfound => ?_
  obtain ⟨m, hm⟩ := Option.isSome_iff_exists.1 hfound
  obtain ⟨-, h, w, -, -, -, hline, hbody⟩ := find_spec hp hm
  have hpart {index : Nat} {text : String} (htext : m.text? o.toList.toArray index = some text) : p.TakesPart o index := by
    obtain ⟨bounds, hbounds, -⟩ := Option.map_eq_some_iff.1 htext
    exact ⟨m, hm, by rw [hbounds]; rfl⟩
  exact ⟨hpart hline, hpart hbody⟩

/-- They never agree on a match of a pattern that does without one of the groups. -/
theorem not_agrees_of_not_mentions (hfound : p.hasError o = true)
    (hmissing : p.regex.mentions 1 = false ∨ p.regex.mentions 2 = false) : ¬ p.Agrees o := by
  intro hagrees
  have hmentions {index : Nat} (hpart : p.TakesPart o index) : p.regex.mentions index = true := by
    obtain ⟨m, hm, hsome⟩ := hpart
    exact Regex.mentions_of_takesPart hm hsome
  obtain ⟨hfirst, hsecond⟩ := agrees_iff.1 hagrees hfound
  rcases hmissing with h | h
  · cases h.symm.trans (hmentions hfirst)
  · cases h.symm.trans (hmentions hsecond)

/-- The default pattern and the patterns of error texts have the usual header and a body without groups. -/
theorem hasBody_of_generalized (h : p = default ∨ ∃ body, ofBody (generalizeBody body) = .ok p) : ∃ L, p.HasBody L := by
  rcases h with rfl | ⟨body, hbody⟩
  · exact ⟨_, hasBody_default⟩
  · rcases Template.ofBody_cases body with ⟨q, hq, htree⟩ | ⟨-, source, herror⟩
    · cases hq.symm.trans hbody
      exact ⟨_, hasBody_template htree⟩
    · cases herror.symm.trans hbody

/-- **Presence and extraction.** Every source text that is accepted makes such a pattern. Where a pattern matches nothing
there is no error, and to ask for the line number or the text of one fails for want of a match. The line number fails so if
and only if the first group takes no part in a match, and the text if and only if the second does not; that both take part
is what finding an error and taking it apart need to agree. They agree on every output for a pattern that requires both
groups, for the default pattern and for the patterns made from error texts. For a pattern that does without one of the
groups they agree on no output with a match. -/
theorem extraction_agrees_iff (p : ErrorPattern) (o : String) :
    ofSource p.source = .ok p ∧
    (p.hasError o = false → p.lineNumber o = .error (.noMatch p.source) ∧ p.errorBody o = .error (.noMatch p.source) ∧
      p.findError o = .ok none) ∧
    (p.lineNumber o = .error (.noMatch p.source) ↔ ¬ p.TakesPart o 1) ∧
    (p.errorBody o = .error (.noMatch p.source) ↔ ¬ p.TakesPart o 2) ∧
    (p.Agrees o ↔ (p.hasError o = true → p.TakesPart o 1 ∧ p.TakesPart o 2)) ∧
    (p.regex.requires 1 = true ∧ p.regex.requires 2 = true → p.Agrees o) ∧
    (p = default ∨ (∃ body, ofBody (generalizeBody body) = .ok p) → p.Agrees o) ∧
    (p.regex.mentions 1 = false ∨ p.regex.mentions 2 = false → p.hasError o = true → ¬ p.Agrees o) := by
  refine ⟨ofSource_source p, fun hnone => ?_, lineNumber_eq_noMatch_iff, errorBody_eq_noMatch_iff, agrees_iff,
    fun h => agrees_of_requires h.1 h.2, fun h => ?_, fun hmissing hfound => not_agrees_of_not_mentions hfound hmissing⟩
  · have hpart (index : Nat) : ¬ p.TakesPart o index := fun h => by
      cases hnone.symm.trans (hasError_of_takesPart h)
    refine ⟨lineNumber_eq_noMatch_iff.2 (hpart 1), errorBody_eq_noMatch_iff.2 (hpart 2), ?_⟩
    rw [findError, hnone]
    rfl
  · obtain ⟨L, hL⟩ := hasBody_of_generalized h
    exact agrees_of_hasBody hL

/-! ### A pattern with an optional body -/

open Regex (Ast) in
/-- A line number and a colon, and perhaps a text behind a blank. -/
def optionalBody : ErrorPattern where
  source := "([0-9]+):( .+)?"
  tree := Ast.sequence [.capture 1 (manyOf false (.span '0' '9')), .char ':',
    .repeated 0 (some 1) true (.capture 2 (.cat (.char ' ') (.repeated 1 none true .dot)))]
  reads := by decide +kernel

/-- What stands in front of the body of the pattern. -/
def optionalBodyFront : Regex := .group 1 (.plus true (.char (.span '0' '9')))

/-- The body of the pattern: a blank and a text. -/
def optionalBodyText : Regex := .cat (.char (.single ' ')) (.plus true (.char .notNewline))

theorem regex_optionalBody : optionalBody.regex =
    .cat optionalBodyFront (.cat (.char (.single ':')) (.alt (.group 2 optionalBodyText) .empty)) := by
  decide +kernel

/-- A run on a text without blanks leaves the body out. -/
theorem body_not_marked {text : Array Char} (hblank : ' ' ∉ text) {i j stop : Nat} {ms : Regex.Marks}
    (h : Regex.Run text optionalBody.regex i j ms) : (Regex.stopSlot 2, stop) ∉ ms := by
  rw [regex_optionalBody] at h
  cases h with
  | cat hfront hrest =>
    cases hrest with
    | cat hcolon hbody =>
      cases hbody with
      | left hgroup =>
        cases hgroup with
        | group htext =>
          cases htext with
          | cat hfirst hmore =>
            cases hfirst with
            | char hc hs =>
              rw [CharSet.contains_single, beq_iff_eq] at hs
              exact absurd (hs ▸ Array.mem_of_getElem? hc) hblank
      | right hempty =>
        cases hempty
        intro hm
        rcases List.mem_append.1 hm with hm | hm
        · cases hcolon
          cases hm
        · cases hfront.mentions_of_mem hm

/-- **An error may be found that has no text**: the pattern is accepted and has two groups, and it matches an output with
nothing behind the colon, but the text of the error is answered as if nothing matched. -/
theorem found_without_body :
    ofSource "([0-9]+):( .+)?" = .ok optionalBody ∧ optionalBody.tree.captureCount = 2 ∧
      optionalBody.hasError "7:" = true ∧ optionalBody.errorBody "7:" = .error (.noMatch "([0-9]+):( .+)?") ∧
      ¬ optionalBody.Agrees "7:" := by
  have hfound : optionalBody.hasError "7:" = true := by
    rw [hasError, find?, Regex.isSome_find?_iff, regex_optionalBody]
    have hdigit : Regex.Run "7:".toList.toArray (.char (.span '0' '9')) 0 1 [] := .char (c := '7') rfl (by decide)
    have hcolon : Regex.Run "7:".toList.toArray (.char (.single ':')) 1 2 [] := .char (c := ':') rfl (by decide)
    exact ⟨0, Nat.zero_le _, 2, _, .cat (.group (.once hdigit)) (.cat hcolon (.right .empty))⟩
  have hpart : ¬ optionalBody.TakesPart "7:" 2 := by
    rintro ⟨m, hm, hsome⟩
    obtain ⟨i, -, -, ms, hrun, hmarks⟩ := Regex.find?_eq_some hm
    obtain ⟨stop, hstop⟩ := ((Regex.group?_isSome_iff m 2).1 hsome).stop
    rw [hmarks, List.mem_append, List.mem_singleton, Prod.mk.injEq] at hstop
    rcases hstop with hstop | ⟨hslot, -⟩
    · exact body_not_marked (by simp) hrun hstop
    · cases hslot
  have hbody : optionalBody.errorBody "7:" = .error (.noMatch "([0-9]+):( .+)?") := errorBody_eq_noMatch_iff.2 hpart
  exact ⟨ofSource_source optionalBody, rfl, hfound, hbody, fun hagrees => hpart (agrees_iff.1 hagrees hfound).2⟩

end Diagnostics.ErrorPattern
