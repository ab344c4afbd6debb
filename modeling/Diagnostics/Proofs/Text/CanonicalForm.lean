import Diagnostics.Proofs.Text.LineBreaks

/-!
# The canonical form, character by character

The canonical form of a text is reached in passes, each over what the one before it has left. It can be told without them:
what becomes of a character depends only on the two characters beside it (`rendered`, `byNeighbours`). A carriage return
beside a line feed is dropped, any other is a line feed, and all else stays (`canonicalChars_eq`). What follows from that is
told of texts in `canonical_by_neighbours`: a canonical text has no carriage return and is its own canonical form, and the
kind of break that a text is written with makes no difference.
-/

namespace Diagnostics.LineBreaks

/-! ## Neighbours -/

/-- What becomes of a character between its neighbours. -/
def rendered (before after : Option Char) (c : Char) : List Char :=
  if c = '\r' then if before = some '\n' ∨ after = some '\n' then [] else ['\n'] else [c]

/-- The character in front of a place. -/
def before? (cs : List Char) : Nat → Option Char
  | 0 => none
  | i + 1 => cs[i]?

/-- What becomes of each character of a text, between its neighbours in the text. -/
def byNeighbours (cs : List Char) : List Char :=
  cs.zipIdx.flatMap fun (c, i) => rendered (before? cs i) cs[i + 1]? c

/-- What becomes of the rest of a text behind the character `before`. -/
def renderAfter (before : Option Char) : List Char → List Char
  | [] => []
  | c :: rest => rendered before rest.head? c ++ renderAfter (some c) rest

theorem before?_append (pre rest : List Char) : before? (pre ++ rest) pre.length = pre.getLast? := by
  rcases List.eq_nil_or_concat pre with rfl | ⟨pre, c, rfl⟩
  · rfl
  · simp [before?]

/-- Going through the rest of a text looks at the same neighbours as looking at its places. -/
theorem renderAfter_eq (pre rest : List Char) : renderAfter pre.getLast? rest =
    (rest.zipIdx pre.length).flatMap fun (c, i) => rendered (before? (pre ++ rest) i) (pre ++ rest)[i + 1]? c := by
  induction rest generalizing pre with
  | nil => rfl
  | cons c rest ih =>
    have hnext : (pre ++ c :: rest)[pre.length + 1]? = rest.head? := by
      rw [List.getElem?_append_right (Nat.le_succ _), Nat.succ_sub (Nat.le_refl _), Nat.sub_self,
        List.head?_eq_getElem?]
      rfl
    have htail := ih (pre ++ [c])
    rw [List.getLast?_concat, List.length_append, List.length_singleton, List.append_assoc, List.singleton_append]
      at htail
    rw [renderAfter, List.zipIdx_cons, List.flatMap_cons, htail]
    dsimp only
    rw [before?_append, hnext]

theorem byNeighbours_eq (cs : List Char) : byNeighbours cs = renderAfter none cs := (renderAfter_eq [] cs).symm

/-! ## The passes -/

/-- The passes after the first. -/
def laterPasses (cs : List Char) : List Char := replaceReturns (joinPairs '\n' '\r' cs)

/-- A line feed in front takes along a carriage return behind it. -/
theorem laterPasses_pair (cs : List Char) : laterPasses ('\n' :: '\r' :: cs) = '\n' :: laterPasses cs := rfl

/-- Any other character behind a line feed is left to itself. -/
theorem laterPasses_feed {c : Char} (hc : c ≠ '\r') (cs : List Char) :
    laterPasses ('\n' :: c :: cs) = '\n' :: laterPasses (c :: cs) := by
  rw [laterPasses, joinPairs, if_neg fun h => hc h.2]
  rfl

/-- What is no line feed begins no pair. -/
theorem laterPasses_cons {c : Char} (hc : c ≠ '\n') (cs : List Char) :
    laterPasses (c :: cs) = (if c = '\r' then '\n' else c) :: laterPasses cs := by
  rw [laterPasses, joinPairs_cons, if_neg fun h => hc h.1]
  rfl

/-- The later passes make of what the first has left what the neighbours in the text ask for, with no line feed in front of
it, or with one that may still be the first half of a pair. -/
structure Renders (passed cs : List Char) : Prop where
  alone : ∀ before, before ≠ some '\n' → laterPasses passed = renderAfter before cs
  behindFeed : laterPasses ('\n' :: passed) = '\n' :: renderAfter (some '\n') cs

/-- A character that the first pass leaves as it is. -/
theorem Renders.cons {passed cs : List Char} (h : Renders passed cs) {c : Char}
    (hc : ¬ (c = '\r' ∧ cs.head? = some '\n')) : Renders (c :: passed) (c :: cs) := by
  by_cases hfeed : c = '\n'
  · subst hfeed
    have hkept (before : Option Char) : renderAfter before ('\n' :: cs) = '\n' :: renderAfter (some '\n') cs := rfl
    refine ⟨fun before _ => ?_, ?_⟩
    · rw [h.behindFeed, hkept]
    · rw [laterPasses_feed (by decide), h.behindFeed, hkept]
  · have hrest : laterPasses passed = renderAfter (some c) cs := h.alone _ fun heq => hfeed (Option.some.inj heq)
    by_cases hreturn : c = '\r'
    · subst hreturn
      have hfeed' : cs.head? ≠ some '\n' := fun hhead => hc ⟨rfl, hhead⟩
      refine ⟨fun before hbefore => ?_, ?_⟩
      · rw [laterPasses_cons hfeed, hrest, renderAfter, rendered, if_pos rfl, if_pos rfl,
          if_neg (not_or.2 ⟨hbefore, hfeed'⟩)]
        rfl
      · rw [laterPasses_pair, hrest]
        rfl
    · have hkept (before : Option Char) : renderAfter before (c :: cs) = c :: renderAfter (some c) cs := by
        rw [renderAfter, rendered, if_neg hreturn, List.singleton_append]
      have hpassed : laterPasses (c :: passed) = c :: renderAfter (some c) cs := by
        rw [laterPasses_cons hfeed, if_neg hreturn, hrest]
      refine ⟨fun before _ => ?_, ?_⟩
      · rw [hpassed, hkept]
      · rw [laterPasses_feed hreturn, hpassed, hkept]

/-- **The passes over a text** make of it what the neighbours in the text ask for. -/
theorem renders_joinPairs (cs : List Char) : Renders (joinPairs '\r' '\n' cs) cs := by
  induction cs using joinPairs.induct '\r' '\n' with
  | case1 => exact ⟨fun _ _ => rfl, rfl⟩
  | case2 c => exact Renders.cons ⟨fun _ _ => rfl, rfl⟩ fun h => Option.some_ne_none _ h.2.symm
  | case3 c d rest hpair ih =>
    obtain ⟨rfl, rfl⟩ := hpair
    rw [joinPairs, if_pos ⟨rfl, rfl⟩]
    have hjoined (before : Option Char) :
        renderAfter before ('\r' :: '\n' :: rest) = '\n' :: renderAfter (some '\n') rest := by
      simp [renderAfter, rendered]
    refine ⟨fun before _ => ?_, ?_⟩
    · rw [ih.behindFeed, hjoined]
    · rw [laterPasses_feed (by decide), ih.behindFeed, hjoined]
  | case4 c d rest hpair ih =>
    rw [joinPairs, if_neg hpair]
    exact ih.cons fun h => hpair ⟨h.1, Option.some.inj h.2⟩

/-- **The canonical form** is told by the neighbours of each character. -/
theorem canonicalChars_eq (cs : List Char) : canonicalChars cs = byNeighbours cs := by
  rw [byNeighbours_eq]
  exact (renders_joinPairs cs).alone none nofun

/-! ## Canonical texts -/

theorem return_not_mem_canonicalChars (cs : List Char) : '\r' ∉ canonicalChars cs := by
  rw [canonicalChars, replaceReturns, List.mem_map]
  rintro ⟨c, -, hc⟩
  split at hc
  · exact absurd hc (by decide)
  · rename_i hreturn
    exact hreturn hc

/-- A text without carriage returns is canonical. -/
theorem canonicalChars_of_no_return {cs : List Char} (h : '\r' ∉ cs) : canonicalChars cs = cs := by
  have hkept (before : Option Char) : renderAfter before cs = cs := by
    induction cs generalizing before with
    | nil => rfl
    | cons c cs ih =>
      obtain ⟨hc, hcs⟩ := not_or.1 (mt List.mem_cons.2 h)
      rw [renderAfter, rendered, if_neg (Ne.symm hc), ih hcs, List.singleton_append]
  rw [canonicalChars_eq, byNeighbours_eq, hkept]

/-! ## Kinds of breaks -/

/-- A text with line feeds, written with another kind of break. -/
def writtenWith (lineBreak : List Char) (cs : List Char) : List Char :=
  cs.flatMap fun c => if c = '\n' then lineBreak else [c]

theorem writtenWith_cons (lineBreak : List Char) (c : Char) (cs : List Char) : writtenWith lineBreak (c :: cs) =
    (if c = '\n' then lineBreak else [c]) ++ writtenWith lineBreak cs := List.flatMap_cons

/-- Breaks of other kinds than the line feed. -/
def otherBreaks : List (List Char) := [['\r', '\n'], ['\n', '\r'], ['\r']]

theorem feed_not_mem_writtenWith (cs : List Char) : '\n' ∉ writtenWith ['\r'] cs := by
  rw [writtenWith, List.mem_flatMap]
  rintro ⟨c, -, hc⟩
  split at hc
  · simp at hc
  · rename_i hfeed
    exact hfeed (List.mem_singleton.1 hc).symm

/-- Each break that a text is written with is a line feed again, whatever its kind. -/
theorem renderAfter_writtenWith {lineBreak : List Char} (hbreak : lineBreak ∈ otherBreaks) {cs : List Char}
    (hcs : '\r' ∉ cs) : ∀ before, (lineBreak = ['\r'] → before ≠ some '\n') →
      renderAfter before (writtenWith lineBreak cs) = cs := by
  induction cs with
  | nil => exact fun _ _ => rfl
  | cons c cs ih =>
    intro before hbefore
    obtain ⟨hc, hcs⟩ := not_or.1 (mt List.mem_cons.2 hcs)
    have ih := ih hcs
    rw [writtenWith_cons]
    by_cases hfeed : c = '\n'
    · subst hfeed
      rw [if_pos rfl]
      simp only [otherBreaks, List.mem_cons, List.not_mem_nil, or_false] at hbreak
      rcases hbreak with rfl | rfl | rfl
      · have hrest := ih (some '\n') nofun
        simp [renderAfter, rendered, hrest]
      · have hrest := ih (some '\r') nofun
        simp [renderAfter, rendered, hrest]
      · have hrest := ih (some '\r') fun _ => by decide
        have hhead : (writtenWith ['\r'] cs).head? ≠ some '\n' := fun hhead =>
          feed_not_mem_writtenWith cs (List.mem_of_mem_head? hhead)
        simp [renderAfter, rendered, hrest, hhead, hbefore rfl]
    · have hrest := ih (some c) fun _ heq => hfeed (Option.some.inj heq)
      rw [if_neg hfeed, List.singleton_append, renderAfter, rendered, if_neg (Ne.symm hc), hrest, List.singleton_append]

theorem canonicalChars_writtenWith {lineBreak : List Char} (hbreak : lineBreak ∈ otherBreaks) {cs : List Char}
    (hcs : '\r' ∉ cs) : canonicalChars (writtenWith lineBreak cs) = cs := by
  rw [canonicalChars_eq, byNeighbours_eq]
  exact renderAfter_writtenWith hbreak hcs none fun _ => nofun

/-- **The canonical form of a text, told by neighbours**: a carriage return beside a line feed is dropped, any other is a line
feed, and all else stays in its order. So a canonical text has no carriage return, it is its own canonical form, a text
without carriage returns may be left alone, and a text that is written with breaks of one other kind has as its canonical
form the same text with line feeds. -/
theorem canonical_by_neighbours (text : String) :
    (canonical text).toList = byNeighbours text.toList ∧
    '\r' ∉ (canonical text).toList ∧
    canonical (canonical text) = canonical text ∧
    ('\r' ∉ text.toList → canonical text = text ∧
      ∀ lineBreak ∈ otherBreaks, canonical (String.ofList (writtenWith lineBreak text.toList)) = text) := by
  have hreturn : '\r' ∉ (canonical text).toList := by
    rw [canonical, String.toList_ofList]
    exact return_not_mem_canonicalChars _
  refine ⟨?_, hreturn, ?_, fun h => ⟨?_, fun lineBreak hbreak => ?_⟩⟩
  · rw [canonical, String.toList_ofList, canonicalChars_eq]
  · rw [canonical, canonicalChars_of_no_return hreturn, String.ofList_toList]
  · rw [canonical, canonicalChars_of_no_return h, String.ofList_toList]
  · rw [canonical, String.toList_ofList, canonicalChars_writtenWith hbreak h, String.ofList_toList]

/-- Only the return that stands alone breaks a line of its own. -/
example : byNeighbours "x\r\n\r\ry".toList = "x\n\ny".toList := by decide

end Diagnostics.LineBreaks
