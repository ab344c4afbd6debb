import Diagnostics.Proofs.Generalize.OwnOutput
import Mathlib.Data.Nat.Digits.Defs
import Mathlib.Data.List.Induction

/-!
# The default pattern as a scanner

A header can be read from left to right without ever going back: each of its fields is a run of characters that ends
where the text between the fields begins (`Header.read?`). A scanner tries to read a header at one place after the other
and stops at the first that has anything behind it (`scan?`); that is the least place where such a header stands
(`scan?_spec`). All that can be asked of an output with the default pattern is answered by what the scanner finds
(`default_extraction`), so no answer depends on how the pattern is searched for.
-/

namespace Diagnostics

/-! ## Reading one header -/

namespace Header

/-- A field of a header: a run of characters, at least one, and what stands behind it. -/
structure Field (p : Char → Bool) where
  chars : List Char
  rest : List Char
  ne : chars ≠ []
  mem : ∀ c ∈ chars, p c = true

/-- Read a field: as many characters as belong to it. -/
def readField? (p : Char → Bool) (cs : List Char) : Option (Field p) :=
  if h : cs.takeWhile p = [] then none
  else some ⟨cs.takeWhile p, cs.dropWhile p, h, List.all_eq_true.1 List.all_takeWhile⟩

/-- The characters of a range. -/
def isRangeChar (c : Char) : Bool := c.isDigit || c == '-'

/-- Read a header at the start of a text; what stands behind it is left. -/
def read? (cs : List Char) : Option (Header × List Char) := do
  let path ← readField? (· != '"') (← afterStart? "File \"".toList cs)
  let line ← readField? Char.isDigit (← afterStart? "\", line ".toList path.rest)
  let range ← readField? isRangeChar (← afterStart? ", characters ".toList line.rest)
  let rest ← afterStart? ":\n".toList range.rest
  pure ({ path := path.chars, line := line.chars, range := range.chars, path_ne := path.ne,
          path_mem := fun c hc => by simpa using path.mem c hc, line_ne := line.ne, line_mem := line.mem,
          range_ne := range.ne, range_mem := fun c hc => by simpa [isRangeChar] using range.mem c hc }, rest)

/-- A field is read off the start of the text. -/
theorem eq_of_readField? {p : Char → Bool} {cs : List Char} {f : Field p} (h : readField? p cs = some f) :
    cs = f.chars ++ f.rest := by
  unfold readField? at h
  split at h
  · cases h
  · cases h
    exact List.takeWhile_append_dropWhile.symm

/-- A run of characters is read as a field if the character behind it does not belong to it. -/
theorem readField?_append {p : Char → Bool} {u : List Char} {d : Char} (hu : u ≠ []) (hmem : ∀ c ∈ u, p c = true)
    (hd : p d = false) (rest : List Char) : readField? p (u ++ d :: rest) = some ⟨u, d :: rest, hu, hmem⟩ := by
  have htake : (u ++ d :: rest).takeWhile p = u := by
    rw [List.takeWhile_append_of_pos hmem, List.takeWhile_cons_of_neg (by simp [hd]), List.append_nil]
  have hdrop : (u ++ d :: rest).dropWhile p = d :: rest := by
    rw [List.dropWhile_append_of_pos hmem, List.dropWhile_cons_of_neg (by simp [hd])]
  simp only [readField?, htake, hdrop, dif_neg hu]

/-- **A header that is read** stands at the start of the text. -/
theorem eq_of_read? {cs rest : List Char} {h : Header} (hread : read? cs = some (h, rest)) : cs = h.chars ++ rest := by
  simp only [read?, Option.bind_eq_bind, Option.bind_eq_some_iff] at hread
  obtain ⟨atPath, hfile, path, hpath, atLine, hline, line, hlines, atRange, hrange, range, hranges, rest', hend, heq⟩ :=
    hread
  cases heq
  rw [afterStart?_eq_some_iff] at hfile hline hrange hend
  rw [hfile, eq_of_readField? hpath, hline, eq_of_readField? hlines, hrange, eq_of_readField? hranges, hend,
    chars_append, quote_line, comma_characters, colon_newline]
  simp only [List.cons_append, List.nil_append]

/-- **A header at the start of a text** is read. -/
theorem read?_append (h : Header) (rest : List Char) : read? (h.chars ++ rest) = some (h, rest) := by
  have hquote (u : List Char) : afterStart? "\", line ".toList ('"' :: (", line ".toList ++ u)) = some u := by
    rw [afterStart?_eq_some_iff, quote_line, List.cons_append]
  have hcomma (u : List Char) : afterStart? ", characters ".toList (',' :: (" characters ".toList ++ u)) = some u := by
    rw [afterStart?_eq_some_iff, comma_characters, List.cons_append]
  have hcolon (u : List Char) : afterStart? ":\n".toList (':' :: '\n' :: u) = some u := by
    rw [afterStart?_eq_some_iff, colon_newline, List.cons_append, List.cons_append, List.nil_append]
  have hfile (u : List Char) : afterStart? "File \"".toList ("File \"".toList ++ u) = some u := by
    rw [afterStart?_eq_some_iff]
  have hpath := readField?_append (p := (· != '"')) (d := '"') h.path_ne (fun c hc => by simpa using h.path_mem c hc)
    (by decide)
  have hline := readField?_append (d := ',') h.line_ne h.line_mem (by decide)
  have hrange := readField?_append (p := isRangeChar) (d := ':') h.range_ne
    (fun c hc => by simpa [isRangeChar] using h.range_mem c hc) (by decide)
  rw [chars_append, read?]
  simp only [Option.bind_eq_bind, Option.bind_some, hfile]
  simp only [hpath, Option.bind_some, hquote, hline, hcomma, hrange, hcolon]
  rfl

end Header

/-! ## Scanning -/

/-- A header that has been found in a text, with all that stands before and behind it. -/
structure Finding where
  before : List Char
  header : Header
  body : List Char

/-- A header at the start of a text with something behind it. -/
def findHere? (cs : List Char) : Option Finding :=
  match Header.read? cs with
  | some (header, b :: body) => some { before := [], header, body := b :: body }
  | _ => none

/-- Look for a header with something behind it, at one place after the other. -/
def scan? : List Char → Option Finding
  | [] => none
  | c :: cs => (findHere? (c :: cs)).or ((scan? cs).map fun f => { f with before := c :: f.before })

/-- A header stands at the place, with at least one character behind it. -/
def HeaderAt (cs : List Char) (i : Nat) : Prop :=
  ∃ (h : Header) (body : List Char), body ≠ [] ∧ cs.drop i = h.chars ++ body

/-- A header that is found at the start of a text stands there with all of the text. -/
theorem eq_of_findHere? {cs : List Char} {f : Finding} (h : findHere? cs = some f) :
    f.before = [] ∧ f.body ≠ [] ∧ cs = f.header.chars ++ f.body := by
  unfold findHere? at h
  split at h
  · rename_i header b body hread
    cases h
    exact ⟨rfl, List.cons_ne_nil b body, Header.eq_of_read? hread⟩
  · cases h

/-- Where none is found, none stands. -/
theorem not_headerAt_zero {cs : List Char} (h : findHere? cs = none) : ¬ HeaderAt cs 0 := by
  rintro ⟨header, body, hbody, hcs⟩
  obtain ⟨b, body, rfl⟩ := List.exists_cons_of_ne_nil hbody
  rw [List.drop_zero] at hcs
  rw [findHere?, hcs, Header.read?_append] at h
  cases h

/-- No header starts at the end of a text. -/
theorem not_headerAt_nil (i : Nat) : ¬ HeaderAt [] i := by
  rintro ⟨h, body, hbody, hcs⟩
  rw [List.drop_nil] at hcs
  exact hbody (List.append_eq_nil_iff.1 hcs.symm).2

/-- **The scanner finds the least place** where a header has something behind it, or there is none. -/
theorem scan?_spec (cs : List Char) :
    match scan? cs with
    | none => ∀ i, ¬ HeaderAt cs i
    | some f => IsLeast {i | HeaderAt cs i} f.before.length ∧ cs = f.before ++ (f.header.chars ++ f.body) := by
  induction cs with
  | nil => exact not_headerAt_nil
  | cons c cs ih =>
    cases hhere : findHere? (c :: cs) with
    | some f =>
      obtain ⟨hbefore, hbody, hsplit⟩ := eq_of_findHere? hhere
      have hzero : HeaderAt (c :: cs) 0 := ⟨f.header, f.body, hbody, hsplit⟩
      rw [scan?, hhere, Option.some_or]
      simp only [hbefore]
      exact ⟨⟨hzero, fun i _ => Nat.zero_le i⟩, hsplit⟩
    | none =>
      have hzero := not_headerAt_zero hhere
      rw [scan?, hhere, Option.none_or]
      cases hscan : scan? cs with
      | none =>
        rw [hscan] at ih
        intro i
        cases i with
        | zero => exact hzero
        | succ i => exact ih i
      | some f =>
        rw [hscan] at ih
        obtain ⟨⟨hat, hle⟩, hsplit⟩ := ih
        refine ⟨⟨hat, fun i hi => ?_⟩, congrArg (c :: ·) hsplit⟩
        cases i with
        | zero => exact absurd hi hzero
        | succ i => exact Nat.succ_le_succ (hle hi)

/-- The scanner stops at the second header of this text: behind the first the path goes on to the quote. -/
example : (scan? "File \"x File \"a.v\", line 07, characters 0--1:\n\n".toList).map
    (fun f => (f.before.length, f.header.line, f.body)) = some (8, ['0', '7'], ['\n']) := by decide

/-! ## Asking the default pattern -/

namespace ErrorPattern

/-- Wherever the default pattern matches there is a header with something behind it. -/
theorem Occurs.headerAt {output pre w post : List Char} {h : Header} (ho : Occurs (· ≠ []) output pre h w post) :
    HeaderAt output pre.length := by
  refine ⟨h, w ++ post, fun hnil => ho.body (List.append_eq_nil_iff.1 hnil).1, ?_⟩
  rw [ho.split, List.drop_left]

/-- The least place of a header is the first place of the default pattern. -/
theorem first_of_isLeast {output pre body : List Char} {h : Header} (hsplit : output = pre ++ (h.chars ++ body))
    (hleast : IsLeast {i | HeaderAt output i} pre.length) : First (· ≠ []) output pre h body [] := by
  obtain ⟨⟨h', body', hbody', hdrop⟩, hle⟩ := hleast
  have hbody : body ≠ [] := by
    rw [hsplit, List.drop_left] at hdrop
    obtain ⟨-, rfl⟩ := Header.append_inj hdrop
    exact hbody'
  exact { split := by rw [List.append_nil]; exact hsplit, body := hbody, le := fun ho => hle ho.headerAt }

/-- Nothing can be read of an output that the pattern does not match. -/
theorem groupText_of_not_hasError {p : ErrorPattern} {o : String} (h : p.hasError o = false) (index : Nat) :
    p.groupText o index = .error (.noMatch p.source) := by
  have hnone : p.find? o = none := by
    rw [hasError] at h
    simpa using h
  rw [groupText, hnone]
  rfl

/-- The error that a pattern finds has its line number and its body. -/
theorem findError_of_hasError {p : ErrorPattern} {o body : String} (h : p.hasError o = true)
    (hbody : p.errorBody o = .ok body) :
    p.findError o = (p.lineNumber o).map fun line => some { line, body } := by
  rw [findError, if_pos h, hbody]
  cases p.lineNumber o <;> rfl

end ErrorPattern

/-- The value of a run of digits in base ten, the last digit first. -/
theorem Numeral.digitsValue_eq_ofDigits (ds : List Char) :
    digitsValue ds = Nat.ofDigits 10 (ds.reverse.map fun c => c.toNat - '0'.toNat) := by
  induction ds using List.reverseRecOn with
  | nil => rfl
  | append_singleton ds c ih =>
    have hstep : digitsValue (ds ++ [c]) = digitsValue ds * 10 + (c.toNat - '0'.toNat) := by
      rw [digitsValue, List.foldl_append]
      rfl
    rw [hstep, ih, List.reverse_append, List.reverse_singleton, List.singleton_append, List.map_cons, Nat.ofDigits_cons]
    omega

/-- The number of a header's line. -/
def Header.lineValue (h : Header) : Nat := Nat.ofDigits 10 (h.line.reverse.map fun c => c.toNat - '0'.toNat)

theorem Header.lineNumber_eq (h : Header) : h.lineNumber =
    if h.lineValue < 2 ^ 64 then .ok h.lineValue else .error (.invalidLineNumber (String.ofList h.line)) := by
  have hlimit : h.lineValue ≤ Numeral.limit64 ↔ h.lineValue < 2 ^ 64 := by
    unfold Numeral.limit64
    omega
  rw [lineNumber, Numeral.digitsValue_eq_ofDigits]
  exact if_congr hlimit rfl rfl

open ErrorPattern in
/-- **The default pattern extracts what a scanner finds.** If no header of the output has anything behind it, there is no
error, and asking for its line, for its body or for a pattern of it fails for want of a match. Otherwise the error is the
one at the least place of such a header: its body is all the rest of the output, its line number is the number that the
digits write if that is less than two to the 64, and it is found with both, or it is the line number that is invalid. A
pattern of it can be made. Only for a long text may there be none, as it would be too large. -/
theorem default_extraction (o : String) :
    match scan? o.toList with
    | none =>
      (∀ i, ¬ HeaderAt o.toList i) ∧
      default.hasError o = false ∧
      default.lineNumber o = .error (.noMatch defaultSource) ∧
      default.errorBody o = .error (.noMatch defaultSource) ∧
      default.findError o = .ok none ∧
      generalize o = .error (.noMatch defaultSource)
    | some found =>
      IsLeast {i | HeaderAt o.toList i} found.before.length ∧
      o.toList = found.before ++ (found.header.chars ++ found.body) ∧
      default.hasError o = true ∧
      default.errorBody o = .ok (String.ofList found.body) ∧
      (found.header.lineValue < 2 ^ 64 →
        default.lineNumber o = .ok found.header.lineValue ∧
        default.findError o = .ok (some { line := found.header.lineValue, body := String.ofList found.body })) ∧
      (2 ^ 64 ≤ found.header.lineValue →
        default.lineNumber o = .error (.invalidLineNumber (String.ofList found.header.line)) ∧
        default.findError o = .error (.invalidLineNumber (String.ofList found.header.line))) ∧
      ((∃ p, generalize o = .ok p) ∨
        100000 < found.body.length ∧ ∃ source, generalize o = .error (.invalidPattern source .tooLarge)) := by
  have hspec := scan?_spec o.toList
  cases hscan : scan? o.toList with
  | none =>
    rw [hscan] at hspec
    have hnone : default.hasError o = false := by
      rw [← Bool.not_eq_true, hasError_iff hasBody_default]
      rintro ⟨pre, h, w, post, hocc⟩
      exact hspec pre.length hocc.headerAt
    have hgroup := groupText_of_not_hasError hnone
    refine ⟨hspec, hnone, ?_, hgroup 2, ?_, ?_⟩
    · rw [lineNumber, hgroup 1]
      rfl
    · rw [findError, hnone]
      rfl
    · rw [generalize, errorBody, hgroup 2]
      rfl
  | some found =>
    rw [hscan] at hspec
    obtain ⟨hleast, hsplit⟩ := hspec
    have hfirst := first_of_isLeast hsplit hleast
    obtain ⟨herror, hbody⟩ := errorBody_of_first hfirst
    have hline : default.lineNumber o = found.header.lineNumber := lineNumber_eq hasBody_default hfirst
    have hfind := findError_of_hasError herror hbody
    rw [hline] at hfind
    refine ⟨hleast, hsplit, herror, hbody, fun hfits => ?_, fun hover => ?_, ?_⟩
    · rw [hline, hfind, Header.lineNumber_eq, if_pos hfits]
      exact ⟨rfl, rfl⟩
    · rw [hline, hfind, Header.lineNumber_eq, if_neg (Nat.not_lt.2 hover)]
      exact ⟨rfl, rfl⟩
    · rw [generalize_eq hbody]
      rcases Template.ofBody_cases (Unicode.trim (String.ofList found.body)) with ⟨p, hp, -⟩ | ⟨hlong, htoo⟩
      · exact .inl ⟨p, hp⟩
      · have hle := Unicode.length_trim_le (String.ofList found.body)
        rw [String.length_ofList] at hle
        exact .inr ⟨Nat.lt_of_lt_of_le hlong hle, htoo⟩

end Diagnostics
