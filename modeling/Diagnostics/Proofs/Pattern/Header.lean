import Diagnostics.Proofs.Regex.Search
import Diagnostics.Proofs.Template.Language

/-!
# Headers

A header names a file, a line and a range of characters: `File "…", line …, characters …:` and a line feed. What
stands in it can be told from the text (`Header.append_inj`), so two headers that begin at one place are the same.
The elements of a pattern's header match the headers and mark the line number (`run_header`).
-/

namespace Diagnostics

/-- What a header says: a path without quotes, the digits of a line number, and a range of digits and
hyphens. -/
structure Header where
  path : List Char
  line : List Char
  range : List Char
  path_ne : path ≠ []
  path_mem : ∀ c ∈ path, c ≠ '"'
  line_ne : line ≠ []
  line_mem : ∀ c ∈ line, c.isDigit = true
  range_ne : range ≠ []
  range_mem : ∀ c ∈ range, c.isDigit = true ∨ c = '-'

namespace Header

/-- The header up to the line number. -/
def beforeLine (h : Header) : List Char := "File \"".toList ++ h.path ++ "\", line ".toList

/-- The header after the line number. -/
def afterLine (h : Header) : List Char := ", characters ".toList ++ h.range ++ ":\n".toList

/-- The characters of the header. -/
def chars (h : Header) : List Char := h.beforeLine ++ h.line ++ h.afterLine

/-- The header as it is written. -/
def text (h : Header) : String := String.ofList h.chars

/-- A run of characters ends at the first that does not belong to it. -/
theorem run_unique {P : Char → Prop} : ∀ {u v x y : List Char} {c d : Char}, (∀ a ∈ u, P a) → (∀ a ∈ v, P a) →
    ¬ P c → ¬ P d → u ++ c :: x = v ++ d :: y → u = v ∧ c :: x = d :: y
  | [], [], _, _, _, _, _, _, _, _, h => ⟨rfl, h⟩
  | [], b :: v, _, _, _, _, _, hv, hc, _, h => by
    obtain ⟨hcb, -⟩ := List.cons.inj h
    exact absurd (hcb ▸ hv b (by simp)) hc
  | a :: u, [], _, _, _, _, hu, _, _, hd, h => by
    obtain ⟨had, -⟩ := List.cons.inj h
    exact absurd (had ▸ hu a (by simp)) hd
  | a :: u, b :: v, x, y, c, d, hu, hv, hc, hd, h => by
    obtain ⟨hab, htail⟩ := List.cons.inj h
    obtain ⟨huv, hrest⟩ := run_unique (fun e he => hu e (List.mem_cons_of_mem a he))
      (fun e he => hv e (List.mem_cons_of_mem b he)) hc hd htail
    exact ⟨by rw [hab, huv], hrest⟩

/-- The fields of a header end where the text between them begins. -/
theorem fields_inj {first second third path path' line line' range range' x y : List Char}
    (hp : ∀ c ∈ path, c ≠ '"') (hp' : ∀ c ∈ path', c ≠ '"') (hl : ∀ c ∈ line, c.isDigit = true)
    (hl' : ∀ c ∈ line', c.isDigit = true) (hr : ∀ c ∈ range, c.isDigit = true ∨ c = '-')
    (hr' : ∀ c ∈ range', c.isDigit = true ∨ c = '-')
    (heq : first ++ (path ++ '"' :: (second ++ (line ++ ',' :: (third ++ (range ++ ':' :: x))))) =
      first ++ (path' ++ '"' :: (second ++ (line' ++ ',' :: (third ++ (range' ++ ':' :: y)))))) :
    path = path' ∧ line = line' ∧ range = range' ∧ x = y := by
  obtain ⟨hpath, hrest⟩ := run_unique (P := (· ≠ '"')) hp hp' (by simp) (by simp) (List.append_cancel_left heq)
  obtain ⟨hline, hrest⟩ := run_unique (P := (Char.isDigit · = true)) hl hl' (by decide) (by decide)
    (List.append_cancel_left (List.cons.inj hrest).2)
  obtain ⟨hrange, hrest⟩ := run_unique (P := fun c => c.isDigit = true ∨ c = '-') hr hr' (by decide) (by decide)
    (List.append_cancel_left (List.cons.inj hrest).2)
  exact ⟨hpath, hline, hrange, (List.cons.inj hrest).2⟩

theorem quote_line : "\", line ".toList = '"' :: ", line ".toList := by decide

theorem comma_characters : ", characters ".toList = ',' :: " characters ".toList := by decide

theorem colon_newline : ":\n".toList = [':', '\n'] := by decide

theorem chars_append (h : Header) (x : List Char) :
    h.chars ++ x = "File \"".toList ++ (h.path ++ '"' :: (", line ".toList ++
      (h.line ++ ',' :: (" characters ".toList ++ (h.range ++ ':' :: ('\n' :: x)))))) := by
  unfold chars beforeLine afterLine
  rw [quote_line, comma_characters, colon_newline]
  simp only [List.append_assoc, List.cons_append, List.nil_append]

/-- **A header can be told from its text**, whatever follows it. -/
theorem append_inj {h h' : Header} {x y : List Char} (heq : h.chars ++ x = h'.chars ++ y) : h = h' ∧ x = y := by
  rw [chars_append, chars_append] at heq
  obtain ⟨hpath, hline, hrange, hrest⟩ := fields_inj h.path_mem h'.path_mem h.line_mem h'.line_mem h.range_mem
    h'.range_mem heq
  obtain ⟨path, line, range⟩ := h
  obtain ⟨path', line', range'⟩ := h'
  obtain rfl : path = path' := hpath
  obtain rfl : line = line' := hline
  obtain rfl : range = range' := hrange
  exact ⟨rfl, (List.cons.inj hrest).2⟩

end Header

/-! ## The elements of the header -/

namespace ErrorPattern

open Regex (Ast ClassItem SpellsAll RunAll Run Spelled Marks startSlot stopSlot)

theorem onlyMember?_range : (Regex.Settings.close {} false (rangeItem.toSet {})).onlyMember? = none := by
  have hcovers (n : Nat) (h : 48 ≤ n ∧ n ≤ 57) :
      (Regex.Settings.close {} false (rangeItem.toSet {})).spans.covers n = true := by
    simp only [Regex.Settings.close_default, rangeItem, Regex.ClassItem.toSet, Bool.false_eq_true, if_false,
      CharSet.covers_union, CharSet.covers_span, Bool.or_eq_true, Bool.and_eq_true, decide_eq_true_eq]
    exact .inl h
  exact CharSet.onlyMember?_eq_none (hcovers 48 (by omega)) (hcovers 49 (by omega)) (by omega)

theorem onlyMember?_notQuote :
    (Regex.Settings.close {} true ((ClassItem.char '"').toSet {})).onlyMember? = none := by decide +kernel

theorem onlyMember?_digit :
    (Regex.Settings.close {} false ((ClassItem.span '0' '9').toSet {})).onlyMember? = none := by decide +kernel

theorem spells_path : Regex.Spells (Regex.ofAst (manyOf true (.char '"'))) fun w => w ≠ [] ∧ ∀ c ∈ w, c ≠ '"' := by
  have h := Regex.spells_many _ true _ onlyMember?_notQuote
  have hmem (c : Char) :
      (Regex.Settings.close {} true ((ClassItem.char '"').toSet {})).contains c = true ↔ c ≠ '"' := by
    show (!(CharSet.single '"').contains c) = true ↔ c ≠ '"'
    rw [CharSet.contains_single, Bool.not_eq_true', beq_eq_false_iff_ne]
    exact ne_comm
  simp only [hmem] at h
  exact h

theorem spells_line : Regex.Spells (Regex.ofAst (manyOf false (.span '0' '9'))) fun w =>
    w ≠ [] ∧ ∀ c ∈ w, c.isDigit = true :=
  Regex.spells_many _ true _ onlyMember?_digit

theorem spells_range : Regex.Spells (Regex.ofAst (manyOf false rangeItem)) fun w =>
    w ≠ [] ∧ ∀ c ∈ w, c.isDigit = true ∨ c = '-' := by
  have h := Regex.spells_many _ true _ onlyMember?_range
  have hmem (c : Char) : (Regex.Settings.close {} false (rangeItem.toSet {})).contains c = true ↔
      c.isDigit = true ∨ c = '-' := by
    show (c.isDigit || (CharSet.single '-').contains c) = true ↔ _
    rw [CharSet.contains_single, Bool.or_eq_true, beq_iff_eq, eq_comm (a := '-')]
  simp only [hmem] at h
  exact h

theorem isElement_header : ∀ a ∈ header, a.IsElement := by
  intro a ha
  rw [header_pieces] at ha
  simp only [List.mem_append, List.mem_map, List.mem_singleton] at ha
  rcases ha with (((((((⟨c, -, rfl⟩ | rfl) | ⟨c, -, rfl⟩) | rfl) | ⟨c, -, rfl⟩) | rfl) | ⟨c, -, rfl⟩ | rfl))
  · exact Regex.isElement_char c
  · exact Regex.isElement_many onlyMember?_notQuote
  · exact Regex.isElement_char c
  · exact ⟨rfl, rfl⟩
  · exact Regex.isElement_char c
  · exact Regex.isElement_many onlyMember?_range
  · exact Regex.isElement_char c
  · exact Regex.isElement_char '\n'

/-- The marks of a header that begins at a position: the end and the start of its line number. -/
def lineMarks (h : Header) (i : Nat) : Marks :=
  [(stopSlot 1, i + h.beforeLine.length + h.line.length), (startSlot 1, i + h.beforeLine.length)]

/-- The elements in front of the line number. -/
def beforeLine : List Ast :=
  "File \"".toList.map Ast.char ++ [manyOf true (.char '"')] ++ "\", line ".toList.map Ast.char

/-- The elements after the line number. -/
def afterLine : List Ast :=
  ", characters ".toList.map Ast.char ++ [manyOf false rangeItem] ++ (":".toList.map Ast.char ++ [Ast.char '\n'])

theorem header_split : header = beforeLine ++ ([.capture 1 (manyOf false (.span '0' '9'))] ++ afterLine) := by
  unfold beforeLine afterLine
  rw [header_pieces]
  simp only [List.append_assoc]

theorem spells_beforeLine : SpellsAll (beforeLine.map Regex.ofAst) fun w =>
    ∃ path, (path ≠ [] ∧ ∀ c ∈ path, c ≠ '"') ∧ w = "File \"".toList ++ path ++ "\", line ".toList := by
  have h := Regex.spellsAll_append (Regex.spellsAll_append (Regex.spellsAll_chars "File \"".toList)
    (Regex.spellsAll_singleton spells_path)) (Regex.spellsAll_chars "\", line ".toList)
  unfold beforeLine
  rw [List.map_append, List.map_append]
  refine Regex.spellsAll_congr h fun w => ?_
  constructor
  · rintro ⟨_, _, rfl, ⟨_, path, rfl, rfl, hp⟩, rfl⟩
    exact ⟨path, hp, rfl⟩
  · rintro ⟨path, hp, rfl⟩
    exact ⟨_, _, rfl, ⟨_, path, rfl, rfl, hp⟩, rfl⟩

theorem spells_afterLine : SpellsAll (afterLine.map Regex.ofAst) fun w =>
    ∃ range, (range ≠ [] ∧ ∀ c ∈ range, c.isDigit = true ∨ c = '-') ∧
      w = ", characters ".toList ++ range ++ ":\n".toList := by
  have hend : ":".toList.map Ast.char ++ [Ast.char '\n'] = ":\n".toList.map Ast.char := by decide
  have h := Regex.spellsAll_append (Regex.spellsAll_append (Regex.spellsAll_chars ", characters ".toList)
    (Regex.spellsAll_singleton spells_range)) (Regex.spellsAll_chars ":\n".toList)
  unfold afterLine
  rw [hend, List.map_append, List.map_append]
  refine Regex.spellsAll_congr h fun w => ?_
  constructor
  · rintro ⟨_, _, rfl, ⟨_, range, rfl, rfl, hr⟩, rfl⟩
    exact ⟨range, hr, rfl⟩
  · rintro ⟨range, hr, rfl⟩
    exact ⟨_, _, rfl, ⟨_, range, rfl, rfl, hr⟩, rfl⟩

/-- **What the header of a pattern matches** is a header, with the line number in the first group. -/
theorem run_header {text : Array Char} {i j : Nat} {ms : Marks} :
    RunAll text (header.map Regex.ofAst) i j ms ↔
      ∃ h : Header, Spelled text i j h.chars ∧ ms = lineMarks h i := by
  have hgroup : Regex.ofAst (.capture 1 (manyOf false (.span '0' '9'))) =
      .group 1 (Regex.ofAst (manyOf false (.span '0' '9'))) := rfl
  rw [header_split, List.map_append, List.map_append, List.map_cons, List.map_nil, hgroup, Regex.runAll_append]
  simp only [spells_beforeLine _ _ _ _, Regex.runAll_append [_], Regex.runAll_singleton, Regex.run_group,
    spells_line _ _ _ _, spells_afterLine _ _ _ _]
  constructor
  · rintro ⟨k, _, _, ⟨rfl, _, ⟨path, hp, rfl⟩, hb⟩,
      ⟨k', _, _, ⟨_, ⟨rfl, line, hl, hline⟩, rfl⟩, ⟨rfl, _, ⟨range, hr, rfl⟩, ha⟩, rfl⟩, rfl⟩
    refine ⟨⟨path, line, range, hp.1, hp.2, hl.1, hl.2, hr.1, hr.2⟩, ?_, ?_⟩
    · exact Regex.spelled_append.2 ⟨k', Regex.spelled_append.2 ⟨k, hb, hline⟩, ha⟩
    · rw [hline.1, hb.1]
      rfl
  · rintro ⟨h, hh, rfl⟩
    obtain ⟨k', hbl, ha⟩ := Regex.spelled_append.1 hh
    obtain ⟨k, hb, hline⟩ := Regex.spelled_append.1 hbl
    refine ⟨k, [], lineMarks h i, ⟨rfl, _, ⟨h.path, ⟨h.path_ne, h.path_mem⟩, rfl⟩, hb⟩,
      ⟨k', lineMarks h i, [], ⟨[], ⟨rfl, h.line, ⟨h.line_ne, h.line_mem⟩, hline⟩, ?_⟩,
        ⟨rfl, _, ⟨h.range, ⟨h.range_ne, h.range_mem⟩, rfl⟩, ha⟩, rfl⟩, by simp⟩
    rw [hline.1, hb.1]
    rfl

end ErrorPattern

end Diagnostics
