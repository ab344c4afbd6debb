import Diagnostics.Proofs.Pattern.Match
import Diagnostics.Proofs.Regex.Greedy

/-!
# The default pattern

The default pattern matches wherever a header has anything after it. The body that it reports is all the rest of the
output (`default_find`): its second group is greedy and takes any character, line feeds too.
-/

namespace Diagnostics

namespace Regex

/-! ## The end of a sequence -/

namespace Shape

/-- A part that is no literal is not joined with what stands in front of it. -/
theorem foldr_consPart_append {g : Shape} (hg : ∀ cs, g ≠ literal cs) (as : List Shape) :
    ∃ xs, (as ++ [g]).foldr consPart [] = xs ++ [g] := by
  induction as with
  | nil =>
    refine ⟨[], ?_⟩
    rw [List.nil_append, List.foldr_cons, List.foldr_nil, consPart]
    exact fun _ _ _ _ h => absurd h.symm (List.cons_ne_nil _ _)
  | cons a as ih =>
    obtain ⟨xs, hxs⟩ := ih
    rw [List.cons_append, List.foldr_cons, hxs]
    unfold consPart
    split
    · rename_i cs ds rest heq
      cases xs with
      | nil =>
        obtain ⟨rfl, -⟩ := List.cons.inj heq
        exact absurd rfl (hg ds)
      | cons x xs =>
        obtain ⟨-, rfl⟩ := List.cons.inj heq
        exact ⟨literal (cs ++ ds) :: xs, rfl⟩
    · exact ⟨_ :: xs, rfl⟩

/-- What stands in front of the last part of a sequence is a block of instructions that leads to it. -/
theorem layout_ofParts_append (g : Shape) (xs : List Shape) :
    ∃ n, (ofParts (xs ++ [g])).toRegex.size = n + g.toRegex.size ∧ ∀ base next, ∃ block : List Inst,
      (ofParts (xs ++ [g])).toRegex.layout base next = block ++ g.toRegex.layout (base + n) next ∧
        block.length = n ∧ ∀ inst ∈ block, ∀ x ∈ inst.targets, x ≤ base + n := by
  induction xs with
  | nil => exact ⟨0, by simp [ofParts], fun base next => ⟨[], by simp [ofParts], rfl, by simp⟩⟩
  | cons a xs ih =>
    obtain ⟨n, hsize, hlayout⟩ := ih
    have hcat : ofParts (a :: xs ++ [g]) = cat a (ofParts (xs ++ [g])) := by cases xs <;> rfl
    refine ⟨a.toRegex.size + n, ?_, fun base next => ?_⟩
    · rw [hcat, toRegex, size, hsize, Nat.add_assoc]
    · obtain ⟨block, hblock, hlen, htargets⟩ := hlayout (base + a.toRegex.size) next
      refine ⟨a.toRegex.layout base (base + a.toRegex.size) ++ block, ?_, ?_, fun inst hi x hx => ?_⟩
      · rw [hcat, toRegex, layout, hblock, List.append_assoc, Nat.add_assoc]
      · rw [List.length_append, length_layout, hlen]
      · rcases List.mem_append.1 hi with hi | hi
        · have := targets_layout a.toRegex hi x hx
          omega
        · have := htargets inst hi x hx
          omega

end Shape

end Regex

namespace ErrorPattern

open Regex (Ast TailLoop)

/-- What the second group of the default pattern repeats: any character. -/
def anyRegex : Regex := .alt (.char .notNewline) (.char (.single '\n'))

theorem toShape_wholeRest : (Ast.capture 2 wholeRest).toShape =
    .group 2 (.repeated 1 none true (.alt (.set .notNewline) (.literal ['\n']))) := by decide +kernel

theorem ofAst_wholeRest : Regex.ofAst wholeRest = .plus true anyRegex := by decide +kernel

/-- **The program of the default pattern** ends in a greedy loop, and what stands in front of it leads there. -/
theorem default_program : ∃ a, default.regex.size = a + 6 ∧ TailLoop default.regex.program a ∧
    ∀ b inst, b < a → default.regex.program[b]? = some inst → ∀ x ∈ inst.targets, x ≤ a := by
  have helements : ∀ a ∈ header ++ [Ast.capture 2 wholeRest], a.IsElement := by
    intro a ha
    rcases List.mem_append.1 ha with ha | ha
    · exact isElement_header a ha
    · obtain rfl := List.mem_singleton.1 ha
      exact ⟨rfl, rfl⟩
  obtain ⟨xs, hxs⟩ := Regex.Shape.foldr_consPart_append (g := (Ast.capture 2 wholeRest).toShape)
    (by rw [toShape_wholeRest]; intro cs h; cases h) (header.map Ast.toShape)
  have hregex : default.regex = (Regex.Shape.ofParts (xs ++ [(Ast.capture 2 wholeRest).toShape])).toRegex := by
    show (Ast.sequence (header ++ [Ast.capture 2 wholeRest])).toShape.toRegex = _
    rw [Regex.toShape_sequence helements, List.map_append, List.map_cons, List.map_nil, hxs]
  have hgroup : (Ast.capture 2 wholeRest).toShape.toRegex = .group 2 (.plus true anyRegex) := by
    rw [toShape_wholeRest]
    rfl
  obtain ⟨n, hsize, hlayout⟩ := Regex.Shape.layout_ofParts_append (Ast.capture 2 wholeRest).toShape xs
  obtain ⟨block, hblock, hlen, htargets⟩ := hlayout 0 default.regex.size
  rw [← hregex, hgroup] at hsize hblock
  have hstands := Regex.stands_program default.regex
  rw [hblock] at hstands
  obtain ⟨hfront, htail⟩ := Regex.stands_append hstands
  rw [hlen, Nat.zero_add] at htail
  have hsize : default.regex.size = n + 6 := hsize
  have haccept := Regex.program_accept default.regex
  rw [hsize] at haccept htail
  refine ⟨n, hsize, ?_, fun b inst hb hinst x hx => ?_⟩
  · obtain ⟨henter, htail⟩ := Regex.stands_cons htail
    obtain ⟨hfork, htail⟩ := Regex.stands_cons htail
    obtain ⟨hother, htail⟩ := Regex.stands_cons htail
    obtain ⟨hnewline, htail⟩ := Regex.stands_cons htail
    obtain ⟨hloop, htail⟩ := Regex.stands_cons htail
    obtain ⟨hleave, -⟩ := Regex.stands_cons htail
    exact ⟨henter, hfork, hother, hnewline, hloop, hleave, haccept⟩
  · have hblockget := hfront b (by rw [hlen]; exact hb)
    rw [Nat.zero_add, hinst] at hblockget
    simpa using htargets inst (List.mem_of_getElem? hblockget.symm) x hx

/-- The body of the default pattern is any text but the empty one. -/
theorem hasBody_default : default.HasBody (· ≠ []) := by
  refine ⟨[wholeRest], rfl, ?_⟩
  have hany : Regex.Spells anyRegex fun w => ∃ c, True ∧ w = [c] := by
    refine (Regex.spells_alt (Regex.spells_char .notNewline) (Regex.spells_single '\n')).congr fun w => ?_
    simp only [CharSet.contains_notNewline, true_and]
    constructor
    · rintro (⟨c, -, rfl⟩ | rfl)
      · exact ⟨c, rfl⟩
      · exact ⟨'\n', rfl⟩
    · rintro ⟨c, rfl⟩
      by_cases hc : c = '\n'
      · exact .inr (by rw [hc])
      · exact .inl ⟨c, by simp [Ne.symm hc], rfl⟩
  rw [show Ast.sequence [wholeRest] = wholeRest from rfl, ofAst_wholeRest]
  exact (Regex.spells_plus true hany).congr fun w => by simp

/-- A match of the default pattern ends where the output ends. -/
theorem default_stop {o : String} {m : Regex.Match} (hm : default.find? o = some m) : m.stop = o.toList.length := by
  rw [find?, Regex.find?, Option.map_eq_some_iff] at hm
  obtain ⟨u, hu, rfl⟩ := hm
  obtain ⟨i, -, -, hpref⟩ := Regex.search_eq_some hu
  obtain ⟨a, hsize, htail, htargets⟩ := default_program
  have haddr : u.address = default.regex.size := (Regex.accepts_iff _ u).1 hpref.path.2
  have hstop := Regex.preferred_tail htail (Regex.closed_program _ _) htargets (Nat.zero_le a) (by omega) hpref
  simpa using hstop

/-- **What the default pattern finds** is the first header with anything after it; the body is all that follows. -/
theorem default_find {o : String} (ho : default.hasError o = true) :
    ∃ pre h body, First (· ≠ []) o.toList pre h body [] ∧ default.lineNumber o = h.lineNumber ∧
      default.errorBody o = .ok (String.ofList body) := by
  obtain ⟨m, hm⟩ := Option.isSome_iff_exists.1 ho
  obtain ⟨pre, h, w, post, hfirst, hstop, -, hbody⟩ := find_spec hasBody_default hm
  have hpost : post = [] := by
    have hlen := congrArg List.length hfirst.split
    rw [← default_stop hm, hstop] at hlen
    simp only [List.length_append] at hlen
    exact List.length_eq_zero_iff.1 (by omega)
  subst hpost
  refine ⟨pre, h, w, hfirst, lineNumber_eq hasBody_default hfirst, ?_⟩
  rw [errorBody, groupText, hm, Option.bind_some, hbody]

end ErrorPattern

end Diagnostics
