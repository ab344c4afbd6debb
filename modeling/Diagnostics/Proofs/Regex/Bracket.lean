import Diagnostics.Proofs.Regex.Reading

/-!
# Reading a bracket item by item

The inside of a bracket that holds characters, spans and one-letter classes is read item by item up to the sign that
closes it (`ReadsInside`). A hyphen makes a span of the characters beside it, so an item that is no span stands where no
hyphen follows; a hyphen at the end stands for itself.
-/

namespace Diagnostics.Regex

/-- The text reads as these items up to the sign that closes the bracket. -/
def ReadsInside (cs : List Char) (items : List ClassItem) : Prop :=
  ∀ (b : OpenBracket) (rest : List Char), readBracketFrom false b [] (cs ++ ']' :: rest) =
    .ok (b.negated, (items.foldl OpenBracket.push b).value, rest)

theorem readsInside_nil : ReadsInside [] [] := by
  intro b rest
  have hstep : readBracketStep false (']' :: rest) = .ok (.closing, rest) := rfl
  rw [List.nil_append, readBracketFrom, skipBlanks_false, hstep]
  simp [bind, Except.bind, pure, Except.pure]

/-- One more item in front. -/
theorem ReadsInside.cons {piece cs : List Char} {item : ClassItem} {items : List ClassItem} (h : ReadsInside cs items)
    (hne : piece ≠ [])
    (hstep : ∀ rest, readBracketStep false (piece ++ (cs ++ ']' :: rest)) = .ok (.item item, cs ++ ']' :: rest)) :
    ReadsInside (piece ++ cs) (item :: items) := by
  intro b rest
  have hlength : (cs ++ ']' :: rest).length < (piece ++ (cs ++ ']' :: rest)).length := by
    have hpos := List.length_pos_iff.2 hne
    simp only [List.length_append]
    omega
  rw [List.append_assoc, readBracketFrom, skipBlanks_false, hstep]
  simp only [bind, Except.bind, hlength, if_true]
  exact h (b.push item) rest

/-! ## Items -/

/-- What neither opens nor closes a bracket and is no operator is the beginning of an item. -/
theorem readBracketStep_item {c : Char} {cs left : List Char} {item : ClassItem} (hopen : c ≠ '[') (hclose : c ≠ ']')
    (hoperator : setOperator? (c :: cs) = none) (h : readClassItem false (c :: cs) = .ok (item, left)) :
    readBracketStep false (c :: cs) = .ok (.item item, left) := by
  have hposix : posixClass? (c :: cs) = none := by
    unfold posixClass?
    split
    · rename_i heq
      exact absurd (List.cons.inj heq).1 hopen
    · rfl
  unfold readBracketStep
  rw [hposix, hoperator]
  dsimp only
  split
  · rename_i heq
    cases heq
  · rename_i heq
    exact absurd (List.cons.inj heq).1 hopen
  · rename_i heq
    exact absurd (List.cons.inj heq).1 hclose
  · rw [h]
    rfl

/-- No operator begins with a character that is no sign. -/
theorem setOperator?_plain {c : Char} (hc : isMeta c = false) (cs : List Char) : setOperator? (c :: cs) = none := by
  unfold setOperator?
  split
  · rename_i heq
    exact absurd (List.cons.inj heq).1 (ne_of_meta (by decide) hc).symm
  · rename_i heq
    exact absurd (List.cons.inj heq).1 (ne_of_meta (by decide) hc).symm
  · rename_i heq
    exact absurd (List.cons.inj heq).1 (ne_of_meta (by decide) hc).symm
  · rfl

theorem readBracketStep_plain {c : Char} {cs left : List Char} {item : ClassItem} (hc : isMeta c = false)
    (h : readClassItem false (c :: cs) = .ok (item, left)) :
    readBracketStep false (c :: cs) = .ok (.item item, left) :=
  readBracketStep_item (ne_of_meta (by decide) hc).symm (ne_of_meta (by decide) hc).symm (setOperator?_plain hc cs) h

/-- An element is an item by itself if no hyphen follows. -/
theorem readClassItem_single {cs left : List Char} {e : Escape} {item : ClassItem}
    (hread : readClassElement false cs = .ok (e, left)) (hitem : e.toClassItem = .ok item) (hne : left ≠ [])
    (hhyphen : left.head? ≠ some '-') : readClassItem false cs = .ok (item, left) := by
  cases left with
  | nil => exact absurd rfl hne
  | cons d left =>
    have hd : d ≠ '-' := fun h => hhyphen (congrArg some h)
    simp [readClassItem, hread, hitem, hd, bind, Except.bind, pure, Except.pure]

theorem readClassElement_plain {c : Char} (hc : isMeta c = false) (cs : List Char) :
    readClassElement false (c :: cs) = .ok (.char c, cs) := by
  unfold readClassElement
  split
  · rename_i heq
    cases heq
  · rename_i heq
    exact absurd (List.cons.inj heq).1 (ne_of_meta (by decide) hc).symm
  · rename_i heq
    obtain ⟨rfl, rfl⟩ := List.cons.inj heq
    rfl

/-- Where no hyphen follows the text, none follows in front of what closes the bracket. -/
theorem head_append_closing {cs rest : List Char} (h : cs.head? ≠ some '-') : (cs ++ ']' :: rest).head? ≠ some '-' := by
  cases cs with
  | nil => simp
  | cons c cs => exact h

/-- A character in front. -/
theorem ReadsInside.char {c : Char} {cs : List Char} {items : List ClassItem} (h : ReadsInside cs items)
    (hc : isMeta c = false) (hcs : cs.head? ≠ some '-') : ReadsInside (c :: cs) (.char c :: items) :=
  h.cons (List.cons_ne_nil c []) fun _ => readBracketStep_plain hc <|
    readClassItem_single (readClassElement_plain hc _) rfl (by simp) (head_append_closing hcs)

/-- A one-letter class in front. -/
theorem ReadsInside.letter {d : Char} {cs : List Char} {items : List ClassItem} {k : LetterClass} {negated : Bool}
    (h : ReadsInside cs items) (hd : ∀ rest, readEscape false (d :: rest) = .ok (.letter k negated, rest))
    (hcs : cs.head? ≠ some '-') : ReadsInside ('\\' :: d :: cs) (.letter k negated :: items) :=
  h.cons (List.cons_ne_nil '\\' [d]) fun _ => readBracketStep_item (by decide) (by decide) rfl <|
    readClassItem_single (hd _) rfl (by simp) (head_append_closing hcs)

theorem spanTo_char (first last : Char) : (Escape.char first).spanTo (.char last) first last = .span first last := by
  unfold Escape.spanTo
  by_cases hfirst : first.toNat < 128 <;> simp only [hfirst, if_true, if_false]

/-- A span in front, whatever follows. -/
theorem ReadsInside.span {first last : Char} {cs : List Char} {items : List ClassItem} (h : ReadsInside cs items)
    (hfirst : isMeta first = false) (hlast : isMeta last = false) (hle : first ≤ last) :
    ReadsInside (first :: '-' :: last :: cs) (.span first last :: items) :=
  h.cons (List.cons_ne_nil first ['-', last]) fun rest => readBracketStep_plain hfirst <| by
    have hbracket : last ≠ ']' := (ne_of_meta (by decide) hlast).symm
    have hhyphen : last ≠ '-' := (ne_of_meta (by decide) hlast).symm
    simp [readClassItem, readClassElement_plain hfirst, readClassElement_plain hlast, peekPastBlanks, hbracket, hhyphen,
      Escape.toSpanEnd, spanTo_char, hle, bind, Except.bind, pure, Except.pure]

/-- A hyphen at the end stands for itself. -/
theorem readsInside_hyphen : ReadsInside ['-'] [.char '-'] :=
  readsInside_nil.cons (List.cons_ne_nil '-' []) fun rest => by
    simp [readBracketStep, posixClass?, setOperator?, readClassItem, readClassElement, Escape.toClassItem, bind,
      Except.bind, pure, Except.pure]

/-! ## The whole bracket -/

/-- The text does not begin with a sign that means something else at the start of a bracket. -/
def OpensPlainly (cs : List Char) : Prop := ∃ c rest, cs = c :: rest ∧ c ≠ '^' ∧ c ≠ '-' ∧ c ≠ ']'

theorem openBracket_plain {cs : List Char} (h : OpensPlainly cs) (rest : List Char) :
    openBracket false (cs ++ rest) = .ok ({ negated := false }, cs ++ rest) := by
  obtain ⟨c, left, rfl, hsign, hhyphen, hbracket⟩ := h
  simp [openBracket, leadingHyphens, hsign, hhyphen, hbracket]

theorem openBracket_negated {cs : List Char} (h : OpensPlainly cs) (rest : List Char) :
    openBracket false ('^' :: (cs ++ rest)) = .ok ({ negated := true }, cs ++ rest) := by
  obtain ⟨c, left, rfl, hsign, hhyphen, hbracket⟩ := h
  simp [openBracket, leadingHyphens, hhyphen, hbracket]

theorem foldl_push (items : List ClassItem) (b : OpenBracket) :
    items.foldl OpenBracket.push b = { b with items := items.reverse ++ b.items } := by
  induction items generalizing b with
  | nil => rfl
  | cons item items ih =>
    rw [List.foldl_cons, ih, List.reverse_cons, List.append_assoc]
    rfl

/-- A bracket that reads item by item holds these items. -/
theorem readBracketFrom_items {cs : List Char} {items : List ClassItem} (h : ReadsInside cs items) (negated : Bool)
    (rest : List Char) :
    readBracketFrom false { negated } [] (cs ++ ']' :: rest) = .ok (negated, .ofList items, rest) := by
  rw [h, foldl_push]
  simp [OpenBracket.value]

/-- **A bracket reads item by item.** -/
theorem lexes_items {cs : List Char} {items : List ClassItem} (h : ReadsInside cs items) (hcs : OpensPlainly cs) :
    Lexes ('[' :: (cs ++ [']'])) [.element (.bracket false (.ofList items))] := by
  refine lexes_bracket fun rest => ?_
  rw [List.append_assoc, readBracket, openBracket_plain hcs]
  simp only [bind, Except.bind, List.singleton_append, readBracketFrom_items h]
  rfl

/-- So does one that holds all other characters. -/
theorem lexes_otherItems {cs : List Char} {items : List ClassItem} (h : ReadsInside cs items) (hcs : OpensPlainly cs) :
    Lexes ('[' :: '^' :: (cs ++ [']'])) [.element (.bracket true (.ofList items))] := by
  refine lexes_bracket fun rest => ?_
  rw [List.cons_append, List.append_assoc, readBracket, openBracket_negated hcs]
  simp only [bind, Except.bind, List.singleton_append, readBracketFrom_items h]
  rfl

end Diagnostics.Regex
