import Diagnostics.Proofs.Pattern.Reading
import Diagnostics.Proofs.Template

/-!
# The pattern of a template is read as it was meant

The source of a template is put together from characters, escapes and the sources of its open parts. Read as
a pattern it falls apart in the same places: no part runs into the next, none opens a group of its own, and
the tree is the header and one more group with the elements of the parts in order (`ofBody_source`). So the
pattern of a template is refused only if it needs too much room.
-/

namespace Diagnostics

open Regex (Ast ClassItem Token Lexes Calm Builds)

namespace Part

/-- The bracket of the characters of temporary names. -/
def tempItem : ClassItem := .union (.span 'A' 'Z') (.union (.span 'a' 'z') (.union (.char '_') (.letter .digit false)))

/-- The elements that the source of a part is read as. -/
def elements : Part → List Ast
  | char c => [.char c]
  | tempName => [.char 't', .char 'm', .char 'p', ErrorPattern.manyOf false tempItem]
  | number => [ErrorPattern.manyOf false (.letter .digit false)]
  | stem => [.repeated 1 none false (.bracket true (.letter .space false))]
  | anything => [.group [(.dotAll, true)] (.repeated 0 none true .dot)]

/-- The tokens that the source of a part is read as. -/
def tokens : Part → List Token
  | char c => [.element (.char c)]
  | tempName => [.element (.char 't'), .element (.char 'm'), .element (.char 'p'),
      .element (.bracket false tempItem), .repetition 1 none true]
  | number => [.element (.bracket false (.letter .digit false)), .repetition 1 none true]
  | stem => [.element (.bracket true (.letter .space false)), .repetition 1 none false]
  | anything => [.opening (.plain [(.dotAll, true)]), .element .dot, .repetition 0 none true, .closing]

theorem source_char (c : Char) : (char c).source = if Regex.isMeta c then ['\\', c] else [c] := rfl

theorem source_tempName : tempName.source =
    ['t', 'm', 'p', '[', 'A', '-', 'Z', 'a', '-', 'z', '_', '\\', 'd', ']', '+'] := by decide

theorem source_number : number.source = ['[', '\\', 'd', ']', '+'] := by decide

theorem source_stem : stem.source = ['[', '^', '\\', 's', ']', '+', '?'] := by decide

theorem source_anything : anything.source = ['(', '?', 's', ':', '.', '*', ')'] := by decide

theorem calm_source (p : Part) : Calm p.source := by
  cases p with
  | char c =>
    rw [source_char]
    split
    · simp [Calm]
    · rename_i h
      have hc : c ≠ '?' := by rintro rfl; exact h rfl
      simp [Calm, hc]
  | tempName => rw [source_tempName]; simp [Calm]
  | number => rw [source_number]; simp [Calm]
  | stem => rw [source_stem]; simp [Calm]
  | anything => rw [source_anything]; simp [Calm]

theorem readsInside_digit : Regex.ReadsInside ['\\', 'd'] [.letter .digit false] :=
  Regex.readsInside_nil.letter (fun _ => rfl) (by decide)

theorem readsInside_space : Regex.ReadsInside ['\\', 's'] [.letter .space false] :=
  Regex.readsInside_nil.letter (fun _ => rfl) (by decide)

theorem lexes_tempBracket : Lexes ['[', 'A', '-', 'Z', 'a', '-', 'z', '_', '\\', 'd', ']']
    [.element (.bracket false tempItem)] := by
  have hword : Regex.ReadsInside ['_', '\\', 'd'] [.char '_', .letter .digit false] :=
    readsInside_digit.char (by decide) (by decide)
  have hsmall : Regex.ReadsInside ['a', '-', 'z', '_', '\\', 'd'] [.span 'a' 'z', .char '_', .letter .digit false] :=
    hword.span (by decide) (by decide) (by decide)
  exact Regex.lexes_items (hsmall.span (by decide) (by decide) (by decide)) ⟨'A', _, rfl, by decide⟩

theorem lexes_digitBracket : Lexes ['[', '\\', 'd', ']'] [.element (.bracket false (.letter .digit false))] :=
  Regex.lexes_items readsInside_digit ⟨'\\', _, rfl, by decide⟩

theorem lexes_notSpaceBracket : Lexes ['[', '^', '\\', 's', ']'] [.element (.bracket true (.letter .space false))] :=
  Regex.lexes_otherItems readsInside_space ⟨'\\', _, rfl, by decide⟩

/-- The group under the flag `s` reads as a group whatever stands after it. -/
theorem lexes_anything : Lexes ['(', '?', 's', ':', '.', '*', ')'] anything.tokens := by
  intro outer rest _
  have hopen : Regex.readToken false '(' ('?' :: 's' :: ':' :: (['.', '*'] ++ ')' :: rest)) =
      .ok (.opening (.plain [(.dotAll, true)]), ['.', '*'] ++ ')' :: rest) := by
    simp [Regex.readToken, Regex.readOpening, Regex.readFlags, Regex.Flag.ofChar?, bind, Except.bind, pure,
      Except.pure]
  have hdot : Lexes ['.'] [.element .dot] := Regex.lexes_token (fun _ _ => rfl) fun _ => rfl
  have hinside : Lexes ['.', '*'] [.element .dot, .repetition 0 none true] :=
    Regex.lexes_append hdot Regex.lexes_star (by simp [Calm])
  have hclose : Regex.readToken false ')' rest = .ok (.closing, rest) := rfl
  have hflags : (Token.opening (.plain [(.dotAll, true)])).verboseAfter false outer = (false, false :: outer) := rfl
  have happ : ['(', '?', 's', ':', '.', '*', ')'] ++ rest =
      '(' :: '?' :: 's' :: ':' :: (['.', '*'] ++ ')' :: rest) := rfl
  rw [happ, Regex.tokensFrom_cons hopen (by simp), hflags, hinside _ _ (by simp [Calm]),
    Regex.tokensFrom_cons hclose (Nat.le_refl _), Token.verboseAfter]
  cases Regex.tokensFrom false outer rest <;> simp [Functor.map, Except.map, tokens]

/-- **Each part is read for itself.** -/
theorem lexes_source (p : Part) : Lexes p.source p.tokens := by
  cases p with
  | char c =>
    rw [source_char]
    split
    · rename_i h
      exact Regex.lexes_escaped h
    · rename_i h
      exact Regex.lexes_plain (by simpa using h)
  | tempName =>
    rw [source_tempName]
    have hbracket := Regex.lexes_append lexes_tempBracket Regex.lexes_plus (by simp [Calm])
    have hp := Regex.lexes_append (Regex.lexes_plain (c := 'p') rfl) hbracket (by simp [Calm])
    have hm := Regex.lexes_append (Regex.lexes_plain (c := 'm') rfl) hp (by simp [Calm])
    exact Regex.lexes_append (Regex.lexes_plain (c := 't') rfl) hm (by simp [Calm])
  | number =>
    rw [source_number]
    exact Regex.lexes_append lexes_digitBracket Regex.lexes_plus (by simp [Calm])
  | stem =>
    rw [source_stem]
    have hlazy : Lexes ['+', '?'] [.repetition 1 none false] :=
      Regex.lexes_token (fun _ _ => by simp [Regex.readToken, Regex.readPreference]) fun _ => rfl
    exact Regex.lexes_append lexes_notSpaceBracket hlazy (by simp [Calm])
  | anything =>
    rw [source_anything]
    exact lexes_anything

/-- The tokens of a part make up its elements, and no capture group. -/
theorem builds_tokens (n : Nat) (p : Part) : Builds n n p.tokens p.elements := by
  cases p with
  | char c => exact Regex.builds_element n _
  | tempName =>
    have hbracket := Regex.builds_repeated n (a := .bracket false tempItem) rfl 1 none true
    have hp := Regex.builds_append (Regex.builds_element n (.char 'p')) hbracket
    have hm := Regex.builds_append (Regex.builds_element n (.char 'm')) hp
    exact Regex.builds_append (Regex.builds_element n (.char 't')) hm
  | number => exact Regex.builds_repeated n rfl 1 none true
  | stem => exact Regex.builds_repeated n rfl 1 none false
  | anything =>
    rintro s rfl
    rfl

theorem shallow_elements (p : Part) : ∀ a ∈ p.elements, a.Shallow 3 := by
  cases p with
  | char c => simp only [elements, List.mem_singleton, forall_eq]; exact Regex.shallow_char _ c
  | tempName =>
    simp only [elements, List.mem_cons, List.not_mem_nil, or_false, forall_eq_or_imp, forall_eq]
    exact ⟨Regex.shallow_char _ _, Regex.shallow_char _ _, Regex.shallow_char _ _,
      Regex.shallow_repeated (by decide) (by rfl) 1 none true⟩
  | number =>
    simp only [elements, List.mem_singleton, forall_eq]
    exact Regex.shallow_repeated (by decide) (by rfl) 1 none true
  | stem =>
    simp only [elements, List.mem_singleton, forall_eq]
    exact Regex.shallow_repeated (by decide) (by rfl) 1 none false
  | anything =>
    simp only [elements, List.mem_singleton, forall_eq]
    exact Regex.shallow_group (by decide) (by rfl) rfl

theorem captureCount_elements (p : Part) : (Ast.sequence p.elements).captureCount = 0 := by
  cases p <;> rfl

end Part

namespace Template

/-- The elements that the source of a template is read as. -/
def elements (t : Template) : List Ast := t.flatMap Part.elements

/-- The tree of the pattern of a template. -/
def tree (t : Template) : Ast := ErrorPattern.bodyTree t.elements

theorem mem_elements {t : Template} {a : Ast} (h : a ∈ t.elements) : ∃ p ∈ t, a ∈ p.elements :=
  List.mem_flatMap.1 h

/-- **The pattern of a template** has the tree of the template, or that is too large and the pattern is refused. -/
theorem ofBody_source (t : Template) :
    (∃ p, ErrorPattern.ofBody t.source = .ok p ∧ p.tree = t.tree) ∨
      Ast.weightLimit < t.tree.weight ∧ ErrorPattern.ofBody t.source =
        .error (.invalidPattern (ErrorPattern.headerSource ++ t.source ++ ")") .tooLarge) := by
  have hpieces := Regex.lexes_flatMap Part.lexes_source Part.calm_source t
  have hread := ErrorPattern.parse_body t.source (by simpa [source] using hpieces.1)
    (by simpa [source] using hpieces.2) (fun n => Regex.builds_flatMap (Part.builds_tokens n) t) fun a ha => by
      obtain ⟨p, -, hp⟩ := mem_elements ha
      obtain ⟨hle, hcat, hsound⟩ := p.shallow_elements a hp
      exact ⟨Nat.le_trans hle (by decide), hcat, hsound⟩
  unfold ErrorPattern.ofBody ErrorPattern.ofSource
  split
  · rename_i tree h
    refine .inl ⟨_, rfl, ?_⟩
    rw [hread] at h
    split at h
    · exact (Except.ok.inj h).symm
    · cases h
  · rename_i cause h
    rw [hread] at h
    split at h
    · cases h
    · rename_i hlarge
      cases h
      exact .inr ⟨Nat.lt_of_not_le hlarge, rfl⟩

theorem captureCount_elements : ∀ t : Template, (Ast.sequence t.elements).captureCount = 0
  | [] => rfl
  | p :: t => by
    have ih := captureCount_elements t
    unfold elements at ih ⊢
    rw [List.flatMap_cons, Regex.captureCount_append, p.captureCount_elements, ih]

/-- The pattern of a template has two groups. -/
theorem captureCount_tree (t : Template) : t.tree.captureCount = 2 := by
  have hheader : (Ast.sequence ErrorPattern.header).captureCount = 1 := by decide
  rw [tree, ErrorPattern.bodyTree, Regex.captureCount_append, hheader]
  simp only [Ast.sequence, Ast.captureCount, t.captureCount_elements]

end Template

end Diagnostics
