import Diagnostics.Proofs.Text.Find
import Diagnostics.Rewrite

/-!
# Texts in an escaped text

An escaped text has a backslash that is not its own in front of some characters. A text that is looked for in it,
escaped too, is found where the text itself would be found, and nowhere else: it never begins between a backslash
and the character that belongs to it, unless it begins with a backslash itself (`cutAtFirst?_escape`,
`cutAtLast?_escape`).
-/

namespace Diagnostics.Rewrite

open Regex (isMeta isMeta_backslash ne_of_meta)

theorem escapeChar_meta {c : Char} (h : isMeta c = true) : escapeChar c = ['\\', c] := if_pos h

theorem escapeChar_plain {c : Char} (h : isMeta c = false) : escapeChar c = [c] := if_neg (by simp [h])

theorem escape_cons (c : Char) (cs : List Char) : escape (c :: cs) = escapeChar c ++ escape cs := rfl

theorem escape_meta {c : Char} (h : isMeta c = true) (cs : List Char) : escape (c :: cs) = '\\' :: c :: escape cs := by
  rw [escape_cons, escapeChar_meta h]
  rfl

theorem escape_plain {c : Char} (h : isMeta c = false) (cs : List Char) : escape (c :: cs) = c :: escape cs := by
  rw [escape_cons, escapeChar_plain h]
  rfl

theorem escape_append (cs ds : List Char) : escape (cs ++ ds) = escape cs ++ escape ds := List.flatMap_append

/-! ## Beginnings -/

/-- Escaping changes nothing about how texts begin. -/
theorem afterStart?_escape (w : List Char) : ∀ cs : List Char,
    afterStart? (escape w) (escape cs) = (afterStart? w cs).map escape := by
  induction w with
  | nil => exact fun _ => rfl
  | cons p w ih =>
    intro cs
    cases cs with
    | nil => cases hp : isMeta p <;> simp only [escape_meta, escape_plain, hp] <;> rfl
    | cons c cs =>
      by_cases hpc : p = c
      · rw [hpc, escape_cons, escape_cons, afterStart?_append, ih, afterStart?_cons, if_pos rfl]
      · rw [afterStart?_of_ne hpc]
        cases hp : isMeta p <;> cases hc : isMeta c
        · rw [escape_plain hp, escape_plain hc]
          exact afterStart?_of_ne hpc _ _
        · rw [escape_plain hp, escape_meta hc]
          exact afterStart?_of_ne (ne_of_meta isMeta_backslash hp).symm _ _
        · rw [escape_meta hp, escape_plain hc]
          exact afterStart?_of_ne (ne_of_meta isMeta_backslash hc) _ _
        · rw [escape_meta hp, escape_meta hc, afterStart?_cons, if_pos rfl]
          exact afterStart?_of_ne hpc _ _

/-- No escaped text begins between a backslash and the character that belongs to it. -/
theorem afterStart?_inside {p c : Char} (hp : p ≠ '\\') (hc : isMeta c = true) (w cs : List Char) :
    afterStart? (escape (p :: w)) (c :: escape cs) = none := by
  cases hmeta : isMeta p with
  | false =>
    rw [escape_plain hmeta]
    exact afterStart?_of_ne (ne_of_meta hc hmeta).symm _ _
  | true =>
    rw [escape_meta hmeta, afterStart?_cons]
    split
    · cases cs with
      | nil => rfl
      | cons d cs =>
        cases hd : isMeta d with
        | false =>
          rw [escape_plain hd]
          exact afterStart?_of_ne (ne_of_meta hmeta hd) _ _
        | true =>
          rw [escape_meta hd]
          exact afterStart?_of_ne hp _ _
    · rfl

/-! ## Cuts -/

/-- The two sides of a cut, escaped. -/
def escapeCut : List Char × List Char → List Char × List Char := Prod.map escape escape

/-- **Cutting an escaped text** at the first place where another begins. -/
theorem cutAtFirst?_escape {p : Char} (hp : p ≠ '\\') (w : List Char) : ∀ cs : List Char,
    cutAtFirst? (escape (p :: w)) (escape cs) = (cutAtFirst? (p :: w) cs).map escapeCut
  | [] => by
    have hstart := afterStart?_escape (p :: w) []
    have hnil : escape [] = [] := rfl
    rw [hnil] at hstart ⊢
    rw [cutAtFirst?, hstart]
    rfl
  | c :: cs => by
    have ih := cutAtFirst?_escape hp w cs
    have hstart := afterStart?_escape (p :: w) (c :: cs)
    cases hcut : afterStart? (p :: w) (c :: cs) with
    | some after =>
      rw [hcut] at hstart
      rw [cutAtFirst?_of_start hcut]
      cases hc : isMeta c with
      | false =>
        rw [escape_plain hc] at hstart ⊢
        exact cutAtFirst?_of_start hstart
      | true =>
        rw [escape_meta hc] at hstart ⊢
        exact cutAtFirst?_of_start hstart
    | none =>
      rw [hcut] at hstart
      rw [cutAtFirst?_of_none hcut, Option.map_map]
      cases hc : isMeta c with
      | false =>
        rw [escape_plain hc] at hstart ⊢
        rw [cutAtFirst?_of_none hstart, ih, Option.map_map]
        congr 1
        funext x
        simp [escapeCut, Prod.map, escape_plain hc]
      | true =>
        rw [escape_meta hc] at hstart ⊢
        rw [cutAtFirst?_of_none hstart, cutAtFirst?_of_none (afterStart?_inside hp hc w cs), ih, Option.map_map,
          Option.map_map]
        congr 1
        funext x
        simp [escapeCut, Prod.map, escape_meta hc]

/-- **Cutting an escaped text** at the last place where another begins. -/
theorem cutAtLast?_escape {p : Char} (hp : p ≠ '\\') (w : List Char) : ∀ cs : List Char,
    cutAtLast? (escape (p :: w)) (escape cs) = (cutAtLast? (p :: w) cs).map escapeCut
  | [] => by
    have hstart := afterStart?_escape (p :: w) []
    have hnil : escape [] = [] := rfl
    rw [hnil] at hstart ⊢
    rw [cutAtLast?, hstart]
    rfl
  | c :: cs => by
    have ih := cutAtLast?_escape hp w cs
    have hstart := afterStart?_escape (p :: w) (c :: cs)
    cases hcut : cutAtLast? (p :: w) cs with
    | some cut =>
      rw [hcut] at ih
      rw [cutAtLast?_of_some hcut]
      cases hc : isMeta c with
      | false =>
        rw [escape_plain hc, cutAtLast?_of_some ih]
        simp [escapeCut, Prod.map, escape_plain hc]
      | true =>
        rw [escape_meta hc, cutAtLast?_of_some (cutAtLast?_of_some ih c)]
        simp [escapeCut, Prod.map, escape_meta hc]
    | none =>
      rw [hcut] at ih
      rw [cutAtLast?_of_none hcut]
      cases hc : isMeta c with
      | false =>
        rw [escape_plain hc] at hstart ⊢
        rw [cutAtLast?_of_none ih, hstart, Option.map_map, Option.map_map]
        rfl
      | true =>
        have hinside : cutAtLast? (escape (p :: w)) (c :: escape cs) = none := by
          rw [cutAtLast?_of_none ih, afterStart?_inside hp hc w cs]
          rfl
        rw [escape_meta hc] at hstart ⊢
        rw [cutAtLast?_of_none hinside, hstart, Option.map_map, Option.map_map]
        rfl

/-- A text without signs is looked for as it is. -/
theorem cutAtFirst?_plain {p : Char} {w : List Char} (hplain : escape (p :: w) = p :: w) (hp : p ≠ '\\')
    (cs : List Char) : cutAtFirst? (p :: w) (escape cs) = (cutAtFirst? (p :: w) cs).map escapeCut := by
  have h := cutAtFirst?_escape hp w cs
  rwa [hplain] at h

end Diagnostics.Rewrite
