import Diagnostics.Text.LineBreaks
import Mathlib.Data.List.Induction

/-!
# Line breaks at a seam

A pass goes over two texts one at a time if no pair crosses the seam between them (`joinPairs_append`), and so do all
passes together (`canonicalChars_append`). A line feed takes a carriage return before it along
(`canonicalChars_newline`). A canonical text ends in a line break and a word if and only if the text did, whichever
break that was (`suffix_canonicalChars_iff`).
-/

namespace Diagnostics.LineBreaks

/-- The characters that break a line. -/
def IsBreak (c : Char) : Prop := c = '\r' ∨ c = '\n'

/-! ## One pass -/

section Pass

variable {first second : Char}

/-- A pass may be taken up at any character. -/
theorem joinPairs_cons (c : Char) (cs : List Char) : joinPairs first second (c :: cs) =
    if c = first ∧ cs.head? = some second then '\n' :: joinPairs first second cs.tail
    else c :: joinPairs first second cs := by
  cases cs with
  | nil => simp [joinPairs]
  | cons d rest => simp [joinPairs]

/-- **A pass at a seam** that no pair crosses. -/
theorem joinPairs_append {as bs : List Char} (h : ¬ (as.getLast? = some first ∧ bs.head? = some second)) :
    joinPairs first second (as ++ bs) = joinPairs first second as ++ joinPairs first second bs := by
  induction as using joinPairs.induct first second with
  | case1 => rfl
  | case2 c =>
    have hseam : ¬ (c = first ∧ bs.head? = some second) := fun ⟨hc, hbs⟩ => h ⟨congrArg some hc, hbs⟩
    rw [List.singleton_append, joinPairs_cons, if_neg hseam]
    rfl
  | case3 c d rest hpair ih =>
    have hrest : ¬ (rest.getLast? = some first ∧ bs.head? = some second) := fun ⟨hlast, hbs⟩ =>
      h ⟨by simp [List.getLast?_cons, hlast], hbs⟩
    simp only [List.cons_append, joinPairs, if_pos hpair, ih hrest]
  | case4 c d rest hpair ih =>
    rw [List.getLast?_cons_cons] at h
    have ih := ih h
    rw [List.cons_append] at ih
    simp only [List.cons_append, joinPairs, if_neg hpair, ih]

/-- Only a line feed begins a text after a pass that did not begin it before. -/
theorem head?_of_joinPairs {cs : List Char} {c : Char} (h : (joinPairs first second cs).head? = some c)
    (hc : c ≠ '\n') : cs.head? = some c := by
  cases cs with
  | nil => exact h
  | cons d cs =>
    rw [joinPairs_cons] at h
    split at h
    · exact absurd (Option.some.inj h).symm hc
    · exact h

/-- A pass leaves the last character, or a line feed in place of a break. -/
theorem getLast?_joinPairs (first second : Char) (cs : List Char) : (joinPairs first second cs).getLast? = cs.getLast? ∨
    (joinPairs first second cs).getLast? = some '\n' ∧ cs.getLast? = some second := by
  induction cs using joinPairs.induct first second with
  | case1 => exact .inl rfl
  | case2 c => exact .inl rfl
  | case3 c d rest hpair ih =>
    rw [joinPairs, if_pos hpair, List.getLast?_cons, List.getLast?_cons_cons, List.getLast?_cons]
    cases hrest : rest.getLast? with
    | none =>
      obtain rfl := List.getLast?_eq_none_iff.1 hrest
      exact .inr ⟨rfl, congrArg some hpair.2⟩
    | some last =>
      rw [hrest] at ih
      rcases ih with ih | ⟨ih, hlast⟩
      · exact .inl (by rw [ih]; rfl)
      · exact .inr ⟨by rw [ih]; rfl, hlast⟩
  | case4 c d rest hpair ih =>
    rw [joinPairs, if_neg hpair, List.getLast?_cons_cons, List.getLast?_cons]
    rcases ih with ih | ⟨ih, hlast⟩
    · refine .inl ?_
      rw [ih, List.getLast?_cons]
      rfl
    · exact .inr ⟨by rw [ih]; rfl, hlast⟩

end Pass

/-! ## All passes -/

/-- A text without the carriage return that it ends in. -/
def withoutReturn (cs : List Char) : List Char := if cs.getLast? = some '\r' then cs.dropLast else cs

/-- Only what stands at the end is looked at. -/
theorem withoutReturn_append {as : List Char} (h : as.getLast? ≠ some '\r') (bs : List Char) :
    withoutReturn (as ++ bs) = as ++ withoutReturn bs := by
  rcases List.eq_nil_or_concat bs with rfl | ⟨bs, c, rfl⟩
  · rw [List.append_nil, withoutReturn, if_neg h]
    exact (List.append_nil as).symm
  · rw [List.concat_eq_append, ← List.append_assoc]
    unfold withoutReturn
    rw [List.getLast?_concat, List.getLast?_concat, List.dropLast_concat, List.dropLast_concat]
    split
    · rfl
    · exact List.append_assoc as bs [c]

theorem replaceReturns_append (as bs : List Char) :
    replaceReturns (as ++ bs) = replaceReturns as ++ replaceReturns bs := List.map_append

/-- **Texts side by side**, unless a pair of a carriage return and a line feed crosses the seam. -/
theorem canonicalChars_append {as bs : List Char} (hreturn : ¬ (as.getLast? = some '\r' ∧ bs.head? = some '\n'))
    (hfeed : ¬ (as.getLast? = some '\n' ∧ bs.head? = some '\r')) :
    canonicalChars (as ++ bs) = canonicalChars as ++ canonicalChars bs := by
  have hsecond : ¬ ((joinPairs '\r' '\n' as).getLast? = some '\n' ∧ (joinPairs '\r' '\n' bs).head? = some '\r') := by
    rintro ⟨hlast, hhead⟩
    refine hfeed ⟨?_, head?_of_joinPairs hhead (by decide)⟩
    rcases getLast?_joinPairs '\r' '\n' as with heq | ⟨-, heq⟩
    · exact heq.symm.trans hlast
    · exact heq
  rw [canonicalChars, joinPairs_append hreturn, joinPairs_append hsecond, replaceReturns_append]
  rfl

/-- A text behind one that does not end in a break. -/
theorem canonicalChars_append_of_last {as : List Char} {last : Char} (h : as.getLast? = some last)
    (hlast : ¬ IsBreak last) (bs : List Char) : canonicalChars (as ++ bs) = canonicalChars as ++ canonicalChars bs := by
  refine canonicalChars_append (fun hr => hlast ?_) (fun hf => hlast ?_)
  · exact .inl (Option.some.inj (h.symm.trans hr.1))
  · exact .inr (Option.some.inj (h.symm.trans hf.1))

/-- A text before one that does not begin with a break. -/
theorem canonicalChars_append_of_head {as bs : List Char} (h : ∀ c ∈ bs.head?, ¬ IsBreak c) :
    canonicalChars (as ++ bs) = canonicalChars as ++ canonicalChars bs :=
  canonicalChars_append (fun hr => h '\n' hr.2 (.inr rfl)) (fun hf => h '\r' hf.2 (.inl rfl))

/-- The first pass joins a line feed with the carriage return before it. -/
theorem joinPairs_newline (as bs : List Char) : joinPairs '\r' '\n' (as ++ '\n' :: bs) =
    joinPairs '\r' '\n' (withoutReturn as) ++ '\n' :: joinPairs '\r' '\n' bs := by
  have hfeed : joinPairs '\r' '\n' ('\n' :: bs) = '\n' :: joinPairs '\r' '\n' bs := by
    rw [joinPairs_cons, if_neg fun h => absurd h.1 (by decide)]
  unfold withoutReturn
  split
  · rename_i hlast
    obtain ⟨before, rfl⟩ := List.getLast?_eq_some_iff.1 hlast
    have hpair : joinPairs '\r' '\n' ('\r' :: '\n' :: bs) = '\n' :: joinPairs '\r' '\n' bs := by
      rw [joinPairs, if_pos ⟨rfl, rfl⟩]
    have hseam : ¬ (before.getLast? = some '\r' ∧ ('\r' :: '\n' :: bs).head? = some '\n') := fun h =>
      absurd (Option.some.inj h.2) (by decide)
    rw [List.append_assoc, List.singleton_append, joinPairs_append hseam, hpair, List.dropLast_concat]
  · rename_i hlast
    rw [joinPairs_append fun h => hlast h.1, hfeed]

/-- **A line feed takes the carriage return before it along.** -/
theorem canonicalChars_newline (as bs : List Char) :
    canonicalChars (as ++ '\n' :: bs) = canonicalChars (withoutReturn as) ++ canonicalChars ('\n' :: bs) := by
  have hfeed := joinPairs_newline [] bs
  have hsecond : ¬ ((joinPairs '\r' '\n' (withoutReturn as)).getLast? = some '\n' ∧
      ('\n' :: joinPairs '\r' '\n' bs).head? = some '\r') := fun h => absurd (Option.some.inj h.2) (by decide)
  rw [canonicalChars, joinPairs_newline, joinPairs_append hsecond, replaceReturns_append, canonicalChars,
    canonicalChars, ← List.nil_append ('\n' :: bs), hfeed]
  rfl

/-- A text without breaks is canonical. -/
theorem canonicalChars_of_no_break {cs : List Char} (h : ∀ c ∈ cs, ¬ IsBreak c) : canonicalChars cs = cs := by
  induction cs with
  | nil => rfl
  | cons c cs ih =>
    have hc : ¬ IsBreak c := h c List.mem_cons_self
    have hsingle : canonicalChars [c] = [c] := by
      change [if c = '\r' then '\n' else c] = [c]
      rw [if_neg fun hr => hc (.inl hr)]
    rw [← List.singleton_append, canonicalChars_append_of_last rfl hc, hsingle,
      ih fun d hd => h d (List.mem_cons_of_mem c hd)]

/-! ## Ends -/

/-- What a text ends in, its canonical form ends in, but for the kind of the break. -/
theorem getLast?_canonicalChars (cs : List Char) :
    (canonicalChars cs).getLast? = cs.getLast?.map fun c => if c = '\r' then '\n' else c := by
  have hpass (second : Char) (hsecond : IsBreak second) (first : Char) (ds : List Char) :
      ((joinPairs first second ds).getLast?.map fun c => if c = '\r' then '\n' else c) =
        ds.getLast?.map fun c => if c = '\r' then '\n' else c := by
    rcases getLast?_joinPairs first second ds with heq | ⟨heq, hlast⟩
    · rw [heq]
    · rw [heq, hlast]
      rcases hsecond with rfl | rfl <;> rfl
  rw [canonicalChars, replaceReturns, List.getLast?_map, hpass '\r' (.inl rfl), hpass '\n' (.inr rfl)]

/-- A word at the end stays there. -/
theorem canonicalChars_append_word (cs : List Char) {w : List Char} (hw : ∀ c ∈ w, ¬ IsBreak c) :
    canonicalChars (cs ++ w) = canonicalChars cs ++ w := by
  rw [canonicalChars_append_of_head fun c hc => hw c (List.mem_of_mem_head? hc), canonicalChars_of_no_break hw]

/-- **A canonical text ends in a break and a word** if and only if the text does, whichever break that is. -/
theorem suffix_canonicalChars_iff {w : List Char} (hw : ∀ c ∈ w, ¬ IsBreak c) {cs : List Char} :
    '\n' :: w <:+ canonicalChars cs ↔ ∃ c, IsBreak c ∧ c :: w <:+ cs := by
  constructor
  · -- From the end of the word to its start: each of its characters is the last of the text as well.
    intro h
    induction w using List.reverseRecOn generalizing cs with
    | nil =>
      obtain ⟨before, hbefore⟩ := h
      have hlast := getLast?_canonicalChars cs
      rw [← hbefore, List.getLast?_concat, eq_comm, Option.map_eq_some_iff] at hlast
      obtain ⟨c, hc, hfeed⟩ := hlast
      obtain ⟨before, rfl⟩ := List.getLast?_eq_some_iff.1 hc
      refine ⟨c, ?_, before, rfl⟩
      split at hfeed
      · exact .inl ‹_›
      · exact .inr hfeed
    | append_singleton w d ih =>
      have hd : ¬ IsBreak d := hw d (List.mem_append_right w List.mem_cons_self)
      obtain ⟨before, hbefore⟩ := h
      have hlast := getLast?_canonicalChars cs
      rw [← hbefore, ← List.cons_append, ← List.append_assoc, List.getLast?_concat, eq_comm,
        Option.map_eq_some_iff] at hlast
      obtain ⟨c, hc, hcd⟩ := hlast
      obtain rfl : c = d := by
        split at hcd
        · exact absurd (.inr hcd.symm) hd
        · exact hcd
      obtain ⟨cs, rfl⟩ := List.getLast?_eq_some_iff.1 hc
      rw [canonicalChars_append_word cs (by simpa using hd), ← List.cons_append, ← List.append_assoc] at hbefore
      obtain ⟨c', hc', after, rfl⟩ := ih (fun e he => hw e (List.mem_append_left _ he))
        ⟨before, List.append_cancel_right hbefore⟩
      exact ⟨c', hc', after, by simp⟩
  · rintro ⟨c, hc, before, rfl⟩
    have hlast : (canonicalChars (before ++ [c])).getLast? = some '\n' := by
      rw [getLast?_canonicalChars, List.getLast?_concat]
      rcases hc with rfl | rfl <;> rfl
    obtain ⟨start, hstart⟩ := List.getLast?_eq_some_iff.1 hlast
    refine ⟨start, ?_⟩
    rw [← List.singleton_append (x := c), ← List.append_assoc, canonicalChars_append_word _ hw, hstart,
      List.append_assoc, List.singleton_append]

end Diagnostics.LineBreaks
