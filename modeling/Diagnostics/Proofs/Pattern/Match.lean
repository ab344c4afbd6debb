import Diagnostics.Proofs.Pattern.Header

/-!
# Where a pattern matches

A pattern with the usual header and a body without groups of its own matches where a header stands with a text
of the body after it (`hasError_iff`). What it finds is the first such place: its first group is the line number
of that header and its second the text of the body (`find_spec`, `lineNumber_eq`).
-/

namespace Diagnostics

/-- The line number of a header, which must fit 64 bits. -/
def Header.lineNumber (h : Header) : Except DiagnosticError Nat :=
  if Numeral.digitsValue h.line ≤ Numeral.limit64 then .ok (Numeral.digitsValue h.line)
  else .error (.invalidLineNumber (String.ofList h.line))

namespace ErrorPattern

open Regex (Ast Run RunAll Spelled Marks startSlot stopSlot)

/-- The pattern is the header and a body that matches the texts of `L` and captures nothing. -/
def HasBody (p : ErrorPattern) (L : List Char → Prop) : Prop :=
  ∃ as, p.tree = bodyTree as ∧ Regex.Spells (Regex.ofAst (Ast.sequence as)) L

theorem hasBody_template {p : ErrorPattern} {t : Template} (h : p.tree = t.tree) : p.HasBody t.Spells :=
  ⟨t.elements, h, t.spells_sequence⟩

/-- A header and a text of the body stand in the output, with so much in front and behind. -/
structure Occurs (L : List Char → Prop) (output pre : List Char) (h : Header) (w post : List Char) : Prop where
  split : output = pre ++ (h.chars ++ (w ++ post))
  body : L w

theorem Occurs.length_le {L : List Char → Prop} {output pre w post : List Char} {h : Header}
    (ho : Occurs L output pre h w post) : pre.length ≤ output.length := by
  rw [ho.split, List.length_append]
  exact Nat.le_add_right _ _

theorem Occurs.drop {L : List Char → Prop} {output pre w post : List Char} {h : Header}
    (ho : Occurs L output pre h w post) {n : Nat} (hn : n ≤ pre.length) :
    Occurs L (output.drop n) (pre.drop n) h w post :=
  ⟨by rw [ho.split, List.drop_append_of_le_length hn], ho.body⟩

theorem Occurs.of_drop {L : List Char → Prop} {output pre w post : List Char} {h : Header} {n : Nat}
    (ho : Occurs L (output.drop n) pre h w post) : Occurs L output (output.take n ++ pre) h w post :=
  ⟨by rw [List.append_assoc, ← ho.split, List.take_append_drop], ho.body⟩

/-- The first place where a header has a text of the body after it. -/
structure First (L : List Char → Prop) (output pre : List Char) (h : Header) (w post : List Char) : Prop
    extends Occurs L output pre h w post where
  le : ∀ {pre' h' w' post'}, Occurs L output pre' h' w' post' → pre.length ≤ pre'.length

/-- **The first place is only one.** -/
theorem First.unique {L : List Char → Prop} {output pre pre' w w' post post' : List Char} {h h' : Header}
    (hf : First L output pre h w post) (hf' : First L output pre' h' w' post') :
    pre = pre' ∧ h = h' ∧ w ++ post = w' ++ post' := by
  have hlen : pre.length = pre'.length := Nat.le_antisymm (hf.le hf'.toOccurs) (hf'.le hf.toOccurs)
  obtain ⟨hpre, hrest⟩ := List.append_inj (hf.split.symm.trans hf'.split) hlen
  exact ⟨hpre, Header.append_inj hrest⟩

/-- Where nothing occurs at the start of an output, the first place is that of the rest. -/
theorem First.drop {L : List Char → Prop} {output pre w post : List Char} {h : Header} {n : Nat}
    (hn : ∀ {pre' h' w' post'}, Occurs L output pre' h' w' post' → n ≤ pre'.length)
    (hf : First L output pre h w post) : First L (output.drop n) (pre.drop n) h w post := by
  refine ⟨hf.toOccurs.drop (hn hf.toOccurs), fun {pre' h' w' post'} ho => ?_⟩
  have hle := hf.le ho.of_drop
  have htake := List.length_take_le n output
  rw [List.length_append] at hle
  rw [List.length_drop]
  omega

section
variable {text : Array Char} {i j : Nat} {ms : Marks}

/-- The marks of a pattern that matches from `i` to `j` with its body beginning at `k`. -/
def patternMarks (h : Header) (i k j : Nat) : Marks := [(stopSlot 2, j), (startSlot 2, k)] ++ lineMarks h i

/-- A pattern matches a header and then its body. -/
theorem run_regex {p : ErrorPattern} {L : List Char → Prop} (hp : p.HasBody L) :
    Run text p.regex i j ms ↔ ∃ h k w, Spelled text i k (Header.chars h) ∧ Spelled text k j w ∧ L w ∧
      ms = patternMarks h i k j := by
  obtain ⟨as, htree, hspells⟩ := hp
  have helements : ∀ a ∈ header ++ [Ast.capture 2 (Ast.sequence as)], a.IsElement := by
    intro a ha
    rcases List.mem_append.1 ha with ha | ha
    · exact isElement_header a ha
    · obtain rfl := List.mem_singleton.1 ha
      exact ⟨rfl, rfl⟩
  have hgroup : Regex.ofAst (.capture 2 (Ast.sequence as)) = .group 2 (Regex.ofAst (Ast.sequence as)) := rfl
  rw [regex, htree, bodyTree, Regex.run_sequence helements, List.map_append, List.map_cons, List.map_nil, hgroup,
    Regex.runAll_append]
  simp only [run_header, Regex.runAll_singleton, Regex.run_group, hspells _ _ _ _]
  constructor
  · rintro ⟨k, _, _, ⟨h, hh, rfl⟩, ⟨_, ⟨rfl, w, hw, hwt⟩, rfl⟩, rfl⟩
    exact ⟨h, k, w, hh, hwt, hw, rfl⟩
  · rintro ⟨h, k, w, hh, hwt, hw, rfl⟩
    exact ⟨k, _, _, ⟨h, hh, rfl⟩, ⟨[], ⟨rfl, w, hw, hwt⟩, rfl⟩, rfl⟩

/-- A text stands at a position of the output if it can be split off there. -/
theorem spelled_iff_split {w : List Char} (hi : i ≤ text.size) :
    Spelled text i j w ↔ j = i + w.length ∧ ∃ pre post, text.toList = pre ++ (w ++ post) ∧ pre.length = i := by
  refine and_congr_right fun _ => ?_
  constructor
  · rintro ⟨post, h⟩
    exact ⟨text.toList.take i, post, by rw [h, List.take_append_drop], by simpa using hi⟩
  · rintro ⟨pre, post, h, rfl⟩
    exact ⟨post, by rw [h, List.drop_left]⟩

/-- The runs from a position are the places where header and body occur with so much in front. -/
theorem run_iff_occurs {p : ErrorPattern} {L : List Char → Prop} (hp : p.HasBody L) (hi : i ≤ text.size) :
    Run text p.regex i j ms ↔ ∃ pre h w post, Occurs L text.toList pre h w post ∧ pre.length = i ∧
      j = i + h.chars.length + w.length ∧ ms = patternMarks h i (i + h.chars.length) j := by
  rw [run_regex hp]
  constructor
  · rintro ⟨h, k, w, hh, hwt, hw, rfl⟩
    obtain ⟨hj, pre, post, hsplit, hpre⟩ := (spelled_iff_split hi).1 (Regex.spelled_append.2 ⟨k, hh, hwt⟩)
    obtain rfl := hh.1
    exact ⟨pre, h, w, post, ⟨by rw [hsplit, List.append_assoc], hw⟩, hpre, hwt.1, rfl⟩
  · rintro ⟨pre, h, w, post, hocc, hpre, rfl, rfl⟩
    have hsplit := (spelled_iff_split (w := h.chars ++ w) (j := i + h.chars.length + w.length) hi).2
      ⟨by rw [List.length_append]; omega, pre, post, by rw [hocc.split, List.append_assoc], hpre⟩
    obtain ⟨k, hh, hwt⟩ := Regex.spelled_append.1 hsplit
    obtain rfl := hh.1
    exact ⟨h, _, w, hh, hwt, hocc.body, rfl⟩

theorem slice_of_split (text : Array Char) {pre w post : List Char} (h : text.toList = pre ++ (w ++ post))
    (hi : i = pre.length) (hj : j = i + w.length) : Regex.slice text i j = String.ofList w := by
  rw [Regex.slice, h, hj, hi, List.drop_left, Nat.add_sub_cancel_left, List.take_left]

end

variable {p : ErrorPattern} {L : List Char → Prop} {o : String}

/-- **A pattern matches an output** if and only if a header stands in it with a text of the body after it. -/
theorem hasError_iff (hp : p.HasBody L) : p.hasError o = true ↔ ∃ pre h w post, Occurs L o.toList pre h w post := by
  rw [hasError, find?, Regex.isSome_find?_iff]
  constructor
  · rintro ⟨i, hi, j, ms, hrun⟩
    obtain ⟨pre, h, w, post, hocc, -⟩ := (run_iff_occurs hp hi).1 hrun
    exact ⟨pre, h, w, post, hocc⟩
  · rintro ⟨pre, h, w, post, hocc⟩
    have hi : pre.length ≤ o.toList.toArray.size := hocc.length_le
    exact ⟨pre.length, hi, _, _, (run_iff_occurs hp hi).2 ⟨pre, h, w, post, hocc, rfl, rfl, rfl⟩⟩

/-- **What a pattern finds** is the first place where it can match, with the line number of the header and the
text of the body. -/
theorem find_spec (hp : p.HasBody L) {m : Regex.Match} (hm : p.find? o = some m) :
    ∃ pre h w post, First L o.toList pre h w post ∧ m.stop = pre.length + h.chars.length + w.length ∧
      m.text? o.toList.toArray 1 = some (String.ofList h.line) ∧
      m.text? o.toList.toArray 2 = some (String.ofList w) := by
  obtain ⟨i, hi, hfirst, ms, hrun, hmarks⟩ := Regex.find?_eq_some hm
  obtain ⟨pre, h, w, post, hocc, rfl, hj, rfl⟩ := (run_iff_occurs hp hi).1 hrun
  refine ⟨pre, h, w, post, ⟨hocc, fun {pre' h' w' post'} hocc' => ?_⟩, hj, ?_, ?_⟩
  · rcases Nat.lt_or_ge pre'.length pre.length with hlt | hge
    · have hle : pre'.length ≤ o.toList.toArray.size := by omega
      exact absurd ((run_iff_occurs hp hle).2 ⟨pre', h', w', post', hocc', rfl, rfl, rfl⟩) (hfirst _ hlt _ _)
    · exact hge
  · have hsplit : o.toList.toArray.toList = (pre ++ h.beforeLine) ++ (h.line ++ (h.afterLine ++ (w ++ post))) := by
      rw [hocc.split, Header.chars]
      simp only [List.append_assoc]
    rw [Regex.Match.text?, Regex.Match.group?, hmarks]
    simp [patternMarks, lineMarks, startSlot, stopSlot, List.lookup_cons,
      slice_of_split o.toList.toArray hsplit List.length_append.symm rfl]
  · have hsplit : o.toList.toArray.toList = (pre ++ h.chars) ++ (w ++ post) := by
      rw [hocc.split, List.append_assoc]
    rw [Regex.Match.text?, Regex.Match.group?, hmarks]
    simp [patternMarks, lineMarks, startSlot, stopSlot, List.lookup_cons,
      slice_of_split o.toList.toArray hsplit List.length_append.symm hj]

/-- A pattern that matches an output matches at a first place. -/
theorem exists_first_place (hp : p.HasBody L) (ho : p.hasError o = true) :
    ∃ pre h w post, First L o.toList pre h w post := by
  obtain ⟨m, hm⟩ := Option.isSome_iff_exists.1 ho
  obtain ⟨pre, h, w, post, hfirst, -⟩ := find_spec hp hm
  exact ⟨pre, h, w, post, hfirst⟩

/-- A line number is read as the number that its digits write, if that fits. -/
theorem read?_line (h : Header) : Numeral.read? Numeral.limit64 (String.ofList h.line) =
    if Numeral.digitsValue h.line ≤ Numeral.limit64 then some (Numeral.digitsValue h.line) else none := by
  have hdigits : Numeral.readDigits? Numeral.limit64 h.line =
      if Numeral.digitsValue h.line ≤ Numeral.limit64 then some (Numeral.digitsValue h.line) else none := by
    rw [Numeral.readDigits?, if_neg (by simpa using h.line_ne), if_pos (by simpa using h.line_mem)]
  rw [Numeral.read?, String.toList_ofList]
  split
  · rename_i ds heq
    have hplus := h.line_mem '+' (by rw [heq]; simp)
    exact absurd hplus (by decide)
  · exact hdigits

/-- **The line number** that a pattern reports is that of the first header that has a text of its body after it. -/
theorem lineNumber_eq (hp : p.HasBody L) {pre w post : List Char} {h : Header} (hf : First L o.toList pre h w post) :
    p.lineNumber o = h.lineNumber := by
  have hsome := (hasError_iff hp).2 ⟨pre, h, w, post, hf.toOccurs⟩
  obtain ⟨m, hm⟩ := Option.isSome_iff_exists.1 hsome
  obtain ⟨pre', h', w', post', hf', -, hline, -⟩ := find_spec hp hm
  obtain ⟨-, rfl, -⟩ := hf.unique hf'
  have hgroup : p.groupText o 1 = .ok (String.ofList h.line) := by
    rw [groupText, hm, Option.bind_some, hline]
  rw [lineNumber, hgroup, Header.lineNumber]
  simp only [bind, Except.bind, read?_line]
  by_cases hfits : Numeral.digitsValue h.line ≤ Numeral.limit64
  · simp only [if_pos hfits]
  · simp only [if_neg hfits]

/-- A pattern that matches nothing at the start of an output finds in it what it finds in the rest. -/
theorem lineNumber_drop (hp : p.HasBody L) {n : Nat}
    (hn : ∀ {pre h w post}, Occurs L o.toList pre h w post → n ≤ pre.length) :
    p.hasError (String.ofList (o.toList.drop n)) = p.hasError o ∧
      (p.hasError o = true → p.lineNumber (String.ofList (o.toList.drop n)) = p.lineNumber o) := by
  have hto : ∀ {pre h w post}, First L o.toList pre h w post →
      First L (String.ofList (o.toList.drop n)).toList (pre.drop n) h w post := fun hf => by
    rw [String.toList_ofList]
    exact hf.drop hn
  refine ⟨?_, fun ho => ?_⟩
  · rw [Bool.eq_iff_iff]
    constructor
    · intro ho
      obtain ⟨pre, h, w, post, hocc⟩ := (hasError_iff hp).1 ho
      rw [String.toList_ofList] at hocc
      exact (hasError_iff hp).2 ⟨_, h, w, post, hocc.of_drop⟩
    · intro ho
      obtain ⟨pre, h, w, post, hf⟩ := exists_first_place hp ho
      exact (hasError_iff hp).2 ⟨_, h, w, post, (hto hf).toOccurs⟩
  · obtain ⟨pre, h, w, post, hf⟩ := exists_first_place hp ho
    rw [lineNumber_eq hp hf, lineNumber_eq hp (hto hf)]

end ErrorPattern

end Diagnostics
