import Diagnostics.Regex.Parse

/-!
# Reading a pattern piece by piece

A pattern is often put together from pieces of text. A piece reads as the same tokens wherever it stands, as
long as the flags around it are the usual ones and no question mark follows that would turn a repetition
round (`Lexes`); and tokens that make up elements add just these elements to the sequence at hand (`Builds`).
So the tree of a pattern is found piece by piece.
-/

namespace Diagnostics.Regex

/-! ## Tokens -/

/-- No question mark stands in front. -/
def Calm (cs : List Char) : Prop := cs.head? ≠ some '?'

/-- The piece reads as these tokens, whatever follows. -/
def Lexes (cs : List Char) (ts : List Token) : Prop :=
  ∀ (outer : List Bool) (rest : List Char), Calm rest →
    tokensFrom false outer (cs ++ rest) = (ts ++ ·) <$> tokensFrom false outer rest

theorem calm_append {cs ds : List Char} (hc : Calm cs) (hd : Calm ds) : Calm (cs ++ ds) := by
  cases cs with
  | nil => exact hd
  | cons c cs => simpa [Calm] using hc

/-- One token is read, and then the rest under the flags that it leaves in force. -/
theorem tokensFrom_cons {outer : List Bool} {c : Char} {rest left : List Char} {token : Token}
    (h : readToken false c rest = .ok (token, left)) (hlen : left.length ≤ rest.length) :
    tokensFrom false outer (c :: rest) =
      (token :: ·) <$> tokensFrom (token.verboseAfter false outer).1 (token.verboseAfter false outer).2 left := by
  rw [tokensFrom]
  simp only [skipBlanks_false, h, bind, Except.bind, List.length_cons, Nat.lt_succ_of_le hlen, if_true]
  cases tokensFrom (token.verboseAfter false outer).1 (token.verboseAfter false outer).2 left <;> rfl

theorem lexes_nil : Lexes [] [] := by
  intro outer rest _
  cases h : tokensFrom false outer rest <;> simp [h, Functor.map, Except.map]

theorem lexes_append {cs ds : List Char} {ts us : List Token} (hc : Lexes cs ts) (hd : Lexes ds us)
    (hcalm : Calm ds) : Lexes (cs ++ ds) (ts ++ us) := by
  intro outer rest hrest
  rw [List.append_assoc, hc outer _ (calm_append hcalm hrest), hd outer rest hrest]
  cases tokensFrom false outer rest <;> simp [Functor.map, Except.map]

/-- Pieces that each read as tokens, and none of which begins with a question mark, read one after the
other. -/
theorem lexes_flatMap {α : Type} {source : α → List Char} {tokens : α → List Token}
    (h : ∀ a, Lexes (source a) (tokens a)) (hcalm : ∀ a, Calm (source a)) (as : List α) :
    Lexes (as.flatMap source) (as.flatMap tokens) ∧ Calm (as.flatMap source) := by
  induction as with
  | nil => exact ⟨lexes_nil, by simp [Calm]⟩
  | cons a as ih =>
    exact ⟨lexes_append (h a) ih.1 ih.2, calm_append (hcalm a) ih.2⟩

/-- A token that leaves the flags alone is a piece. -/
theorem lexes_token {c : Char} {cs : List Char} {token : Token}
    (h : ∀ rest, Calm rest → readToken false c (cs ++ rest) = .ok (token, rest))
    (hflags : ∀ outer, token.verboseAfter false outer = (false, outer)) : Lexes (c :: cs) [token] := by
  intro outer rest hrest
  rw [List.cons_append, tokensFrom_cons (h rest hrest) (by simp), hflags]
  rfl

/-- A character that means nothing else. -/
theorem lexes_plain {c : Char} (h : isMeta c = false) : Lexes [c] [.element (.char c)] := by
  refine lexes_token (fun rest _ => ?_) fun _ => rfl
  dsimp only [readToken]
  split <;> first | rfl | simp [isMeta] at h

/-- A character with a backslash in front that would mean something else. -/
theorem lexes_escaped {c : Char} (h : isMeta c = true) : Lexes ['\\', c] [.element (.char c)] := by
  refine lexes_token (fun rest _ => ?_) fun _ => rfl
  simp [readToken, readEscape, isEscapable, h, bind, Except.bind, pure, Except.pure]

theorem readPreference_calm {rest : List Char} (h : Calm rest) : readPreference rest = (true, rest) := by
  unfold readPreference
  split
  · simp [Calm] at h
  · rfl

/-- A plus sign, where no question mark follows. -/
theorem lexes_plus : Lexes ['+'] [.repetition 1 none true] := by
  refine lexes_token (fun rest h => ?_) fun _ => rfl
  simp [readToken, readPreference_calm h]

theorem lexes_star : Lexes ['*'] [.repetition 0 none true] := by
  refine lexes_token (fun rest h => ?_) fun _ => rfl
  simp [readToken, readPreference_calm h]

/-- A bracket is a piece if it reads as one whatever follows. -/
theorem lexes_bracket {cs : List Char} {a : Ast} (h : ∀ rest, readBracket false (cs ++ rest) = .ok (a, rest)) :
    Lexes ('[' :: cs) [.element a] := by
  refine lexes_token (fun rest _ => ?_) fun _ => rfl
  simp [readToken, h, bind, Except.bind, pure, Except.pure]

/-- A text without signs is read character by character. -/
theorem lexes_chars : ∀ cs : List Char, (∀ c ∈ cs, isMeta c = false) →
    Lexes cs (cs.map fun c => .element (.char c)) ∧ Calm cs
  | [], _ => ⟨lexes_nil, by simp [Calm]⟩
  | c :: cs, h => by
    have hc := h c (by simp)
    have ih := lexes_chars cs fun d hd => h d (List.mem_cons_of_mem c hd)
    have hne : c ≠ '?' := by rintro rfl; simp [isMeta] at hc
    exact ⟨lexes_append (lexes_plain hc) ih.1 ih.2, by simp [Calm, hne]⟩

/-- A piece between parentheses. -/
theorem lexes_capture {cs : List Char} {ts : List Token} (h : Lexes cs ts) (hcalm : Calm cs) :
    Lexes ('(' :: cs ++ [')']) (.opening (.capture none) :: ts ++ [.closing]) := by
  intro outer rest hrest
  have hopen : readToken false '(' (cs ++ ')' :: rest) = .ok (.opening (.capture none), cs ++ ')' :: rest) := by
    have hcalm' : Calm (cs ++ ')' :: rest) := calm_append hcalm (by simp [Calm])
    simp only [readToken, readOpening, skipBlanks_false]
    split <;> first | rfl | (rename_i heq; rw [heq] at hcalm'; simp [Calm] at hcalm')
  have hclose : readToken false ')' rest = .ok (.closing, rest) := rfl
  have happ : '(' :: cs ++ [')'] ++ rest = '(' :: (cs ++ ')' :: rest) := by simp
  rw [happ, tokensFrom_cons hopen (Nat.le_refl _), Token.verboseAfter, h _ _ (by simp [Calm]),
    tokensFrom_cons hclose (Nat.le_refl _), Token.verboseAfter]
  cases tokensFrom false outer rest <;> simp [Functor.map, Except.map]

/-! ## Elements -/

/-- Where `n` groups have been captured before, the tokens put the elements at the end of the sequence at hand,
and after them `m` groups have been captured. -/
def Builds (n m : Nat) (ts : List Token) (as : List Ast) : Prop :=
  ∀ s : Assembly, s.captures = n → ts.foldlM Assembly.step s =
    .ok { s with branches := { s.branches with current := as.reverse ++ s.branches.current }, captures := m }

theorem builds_nil (n : Nat) : Builds n n [] [] := by
  rintro s rfl
  rfl

theorem builds_append {n m k : Nat} {ts us : List Token} {as bs : List Ast} (ht : Builds n m ts as)
    (hu : Builds m k us bs) : Builds n k (ts ++ us) (as ++ bs) := by
  intro s hs
  rw [List.foldlM_append, ht s hs, List.reverse_append, List.append_assoc]
  exact hu _ rfl

theorem builds_flatMap {n : Nat} {α : Type} {tokens : α → List Token} {elements : α → List Ast}
    (h : ∀ a, Builds n n (tokens a) (elements a)) (as : List α) :
    Builds n n (as.flatMap tokens) (as.flatMap elements) := by
  induction as with
  | nil => exact builds_nil n
  | cons a as ih => exact builds_append (h a) ih

theorem builds_element (n : Nat) (a : Ast) : Builds n n [.element a] [a] := by
  rintro s rfl
  rfl

/-- A repetition applies to the element in front of it. -/
theorem builds_repeated (n : Nat) {a : Ast} (h : Assembly.isRepeatable a = true) (min : Nat) (max : Option Nat)
    (greedy : Bool) : Builds n n [.element a, .repetition min max greedy] [.repeated min max greedy a] := by
  rintro s rfl
  simp [Assembly.step, Branches.push, bind, Except.bind, pure, Except.pure, h]

/-- Parentheses around elements make one element of them, with the next number. -/
theorem builds_capture {n m : Nat} {ts : List Token} {as : List Ast} (h : Builds (n + 1) m ts as) :
    Builds n m (.opening (.capture none) :: ts ++ [.closing]) [.capture (n + 1) (Ast.sequence as)] := by
  rintro s rfl
  rw [List.cons_append, List.foldlM_cons, Assembly.step]
  simp only [bind, Except.bind]
  rw [List.foldlM_append, h _ rfl]
  simp [Assembly.step, Branches.push, Branches.value, Branches.next, Ast.choice, OpenGroup.close, bind, Except.bind,
    pure, Except.pure]

/-! ## Depth and faults -/

/-- Where the alphabet is that of all characters, the tree has no fault and leaves the alphabet as it is. -/
def Ast.Sound (a : Ast) : Prop := a.faultFrom false = (none, false)

/-- An element that is no sequence itself, is nested no deeper than `n` and has no fault. -/
structure Ast.Shallow (n : Nat) (a : Ast) : Prop where
  depth_le : a.depth ≤ n
  not_cat : ∀ b c, a ≠ .cat b c
  sound : a.Sound

theorem shallow_char (n : Nat) (c : Char) : (Ast.char c).Shallow n :=
  ⟨Nat.zero_le _, (fun _ _ h => by cases h), rfl⟩

theorem shallow_repeated {n : Nat} {a : Ast} (h : a.depth + 1 ≤ n) (hsound : a.Sound) (min : Nat) (max : Option Nat)
    (greedy : Bool) : (Ast.repeated min max greedy a).Shallow n :=
  ⟨h, (fun _ _ h => by cases h), hsound⟩

theorem Ast.Sound.group {a : Ast} (h : a.Sound) {changes : FlagChanges} (hflags : alphabetAfter false changes = false) :
    (Ast.group changes a).Sound := by
  have hinside : a.faultFrom false = (none, false) := h
  simp only [Ast.Sound, faultFrom, hflags, hinside]

theorem Ast.Sound.capture {a : Ast} (h : a.Sound) (index : Nat) : (Ast.capture index a).Sound := by
  have hinside : a.faultFrom false = (none, false) := h
  simp only [Ast.Sound, faultFrom, hinside]

/-- Parentheses around a tree, with flags that leave the alphabet alone. -/
theorem shallow_group {n : Nat} {a : Ast} (h : a.depth + 1 ≤ n) (hsound : a.Sound) {changes : FlagChanges}
    (hflags : Ast.alphabetAfter false changes = false) : (Ast.group changes a).Shallow n :=
  ⟨h, (fun _ _ h => by cases h), hsound.group hflags⟩

theorem shallow_capture {n : Nat} {a : Ast} (h : a.depth + 1 ≤ n) (hsound : a.Sound) (index : Nat) :
    (Ast.capture index a).Shallow n :=
  ⟨h, (fun _ _ h => by cases h), hsound.capture index⟩

/-- A sequence of elements without a fault has none. -/
theorem sound_sequence {n : Nat} : ∀ {as : List Ast}, (∀ a ∈ as, a.Shallow n) → (Ast.sequence as).Sound
  | [], _ => rfl
  | [a], h => (h a (by simp)).sound
  | a :: b :: as, h => by
    have ha : a.faultFrom false = (none, false) := (h a (by simp)).sound
    have ih : (Ast.sequence (b :: as)).faultFrom false = (none, false) :=
      sound_sequence fun c hc => h c (List.mem_cons_of_mem a hc)
    change (Ast.cat a (Ast.sequence (b :: as))).faultFrom false = (none, false)
    simp only [Ast.faultFrom, ha, ih, Option.or_none]

/-- A sequence, however long, is one level deeper than its elements. -/
theorem depth_sequence {n : Nat} : ∀ {as : List Ast}, (∀ a ∈ as, a.Shallow n) →
    (Ast.sequence as).depth ≤ n + 1
  | [], _ => Nat.zero_le _
  | [a], h => Nat.le_succ_of_le (h a (by simp)).depth_le
  | [a, b], h => by
    have ha := (h a (by simp)).depth_le
    have hb := h b (by simp)
    simp only [Ast.sequence, Ast.depth]
    split
    · exact absurd rfl (hb.not_cat _ _)
    · have := hb.depth_le
      omega
  | a :: b :: c :: as, h => by
    have ha := (h a (by simp)).depth_le
    have ih : (Ast.sequence (b :: c :: as)).depth ≤ n + 1 :=
      depth_sequence fun d hd => h d (List.mem_cons_of_mem a hd)
    simp only [Ast.sequence, Ast.depth] at ih ⊢
    omega

theorem captureCount_cons (a : Ast) (as : List Ast) :
    (Ast.sequence (a :: as)).captureCount = a.captureCount + (Ast.sequence as).captureCount := by
  cases as <;> rfl

/-- The capture groups of a sequence are those of its pieces. -/
theorem captureCount_append (as bs : List Ast) :
    (Ast.sequence (as ++ bs)).captureCount = (Ast.sequence as).captureCount + (Ast.sequence bs).captureCount := by
  induction as with
  | nil => exact (Nat.zero_add _).symm
  | cons a as ih => rw [List.cons_append, captureCount_cons, captureCount_cons, ih, Nat.add_assoc]

/-- A sequence weighs no more than its pieces. -/
theorem weight_append_le : ∀ as bs : List Ast,
    (Ast.sequence (as ++ bs)).weight ≤ (Ast.sequence as).weight + (Ast.sequence bs).weight
  | [], _ => Nat.le_add_left _ _
  | [a], [] => Nat.le_add_right _ _
  | [a], _ :: _ => Nat.le_refl _
  | a :: b :: as, bs => by
    have ih := weight_append_le (b :: as) bs
    simp only [List.cons_append, Ast.sequence, Ast.weight] at ih ⊢
    omega

/-! ## Patterns -/

/-- **A pattern is read piece by piece**: if it falls into tokens that build elements, its tree is their sequence,
unless it needs too much room. -/
theorem parse_pieces {source : String} {ts : List Token} {as : List Ast} {m : Nat} (hl : Lexes source.toList ts)
    (hb : Builds 0 m ts as) (hd : ∀ a ∈ as, a.Shallow 249) :
    Ast.parse source =
      if (Ast.sequence as).weight ≤ Ast.weightLimit then .ok (Ast.sequence as) else .error .tooLarge := by
  have htokens : tokens source = .ok ts := by
    have h := hl [] [] (by simp [Calm])
    have hnil : tokensFrom false [] [] = .ok [] := by rw [tokensFrom]; rfl
    rw [hnil] at h
    simpa [tokens, Functor.map, Except.map] using h
  have htree : Ast.ofTokens ts = .ok (Ast.sequence as) := by
    rw [Ast.ofTokens, hb {} rfl]
    simp [bind, Except.bind, Assembly.finish, Branches.value, Branches.next, Ast.choice]
  have hdepth : (Ast.sequence as).depth ≤ Ast.depthLimit := depth_sequence hd
  have hfault : (Ast.sequence as).fault? = none := congrArg Prod.fst (sound_sequence hd)
  rw [Ast.parse, htokens]
  simp only [bind, Except.bind, htree, hdepth, hfault, if_true, pure, Except.pure]

end Diagnostics.Regex
