import Diagnostics.Proofs.Template
import Diagnostics.Proofs.Text.Escape

/-!
# What a family writes over in an escaped text

Some families write over the details they carry. They find them in the escaped text where they would find them in the
text itself, and what they leave is the source of the template in which those details are open (`text_ofFamily`).
-/

namespace Diagnostics.Template

open Regex (isMeta)
open Rewrite (escape escapeCut replaceStem replaceStems replaceStemsFrom)

/-- The source of a template, character by character. -/
def text (t : Template) : List Char := t.flatMap Part.source

theorem text_cons (p : Part) (t : Template) : text (p :: t) = p.source ++ text t := rfl

theorem text_append (t s : Template) : text (t ++ s) = text t ++ text s := List.flatMap_append

theorem text_literal (cs : List Char) : text (literal cs) = escape cs := by
  induction cs with
  | nil => rfl
  | cons c cs ih =>
    show Part.source (.char c) ++ text (literal cs) = _
    rw [ih]
    rfl

/-! ## Stems -/

/-- An escaped text never begins with a bare character that should be escaped. -/
theorem head?_escape_ne {d : Char} (hd : isMeta d = true) (hne : d ≠ '\\') (cs : List Char) :
    (escape cs).head? ≠ some d := by
  cases cs with
  | nil => simp [escape]
  | cons c cs =>
    cases hc : isMeta c with
    | false =>
      rw [Rewrite.escape_plain hc, List.head?_cons, ne_eq, Option.some_inj]
      exact (Regex.ne_of_meta hd hc).symm
    | true =>
      rw [Rewrite.escape_meta hc, List.head?_cons, ne_eq, Option.some_inj]
      exact hne.symm

theorem isDigit_of_meta {c : Char} (h : isMeta c = true) : c.isDigit = false := by
  have hmem := List.contains_iff_mem.1 (show List.contains _ c = true from h)
  simpa using List.all_eq_true.1 (by decide : List.all _ (fun d => !d.isDigit) = true) c hmem

theorem isSpace_of_meta {c : Char} (h : isMeta c = true) : Unicode.isSpace c = false := by
  have hmem := List.contains_iff_mem.1 (show List.contains _ c = true from h)
  simpa using List.all_eq_true.1 (by decide : List.all _ (fun d => !Unicode.isSpace d) = true) c hmem

theorem head?_escape_digit (cs : List Char) : (escape cs).head?.any Char.isDigit = cs.head?.any Char.isDigit := by
  cases cs with
  | nil => rfl
  | cons c cs =>
    cases hc : isMeta c with
    | false => rw [Rewrite.escape_plain hc]; rfl
    | true =>
      rw [Rewrite.escape_meta hc]
      simpa using isDigit_of_meta hc

/-- A word has a stem after escaping if it had one before, the same one. -/
theorem afterStem?_escape (word : List Char) : ∀ first : Bool,
    Rewrite.afterStem? first (escape word) = (afterStem? first word).map escape := by
  induction word with
  | nil => exact fun _ => rfl
  | cons c word ih =>
    intro first
    cases hc : isMeta c with
    | false =>
      have hback : (c == '\\') = false := beq_eq_false_iff_ne.2 (Regex.ne_of_meta Regex.isMeta_backslash hc).symm
      have hdot : (c == '.') = false := beq_eq_false_iff_ne.2 (Regex.ne_of_meta rfl hc).symm
      rw [Rewrite.escape_plain hc, Rewrite.afterStem?, afterStem?]
      simp only [hback, hdot, Bool.and_false, Bool.false_and, Bool.false_eq_true, if_false, ih]
    | true =>
      have hinside : Rewrite.afterStem? false (c :: escape word) = Rewrite.afterStem? false (escape word) := by
        have hhead : ((escape word).head? == some '.') = false :=
          beq_eq_false_iff_ne.2 (head?_escape_ne rfl (by decide) word)
        rw [Rewrite.afterStem?]
        simp only [hhead, Bool.and_false, Bool.false_and, Bool.false_eq_true, if_false]
      rw [Rewrite.escape_meta hc, Rewrite.afterStem?, afterStem?, hinside, ih, List.head?_cons, List.tail_cons,
        head?_escape_digit]
      simp only [beq_self_eq_true, Bool.and_true, Option.some_beq_some]
      split
      · rw [Option.map_some, Rewrite.escape_meta hc]
      · rfl

theorem text_openStem (word : List Char) : (openStem word).text = replaceStem (escape word) := by
  unfold openStem replaceStem
  rw [afterStem?_escape]
  cases afterStem? true word with
  | some rest => rw [text_cons, text_literal]; rfl
  | none => exact text_literal word

theorem text_openStemsFrom (cs : List Char) : ∀ word : List Char,
    (openStemsFrom word cs).text = replaceStemsFrom (escape word.reverse).reverse (escape cs) := by
  induction cs with
  | nil =>
    intro word
    have hnil : escape [] = [] := rfl
    rw [openStemsFrom, text_openStem, hnil, replaceStemsFrom, List.reverse_reverse]
  | cons c cs ih =>
    intro word
    rw [openStemsFrom]
    split
    · rename_i hspace
      have hc : isMeta c = false := by
        rw [← Bool.not_eq_true]
        intro hmeta
        rw [isSpace_of_meta hmeta] at hspace
        cases hspace
      have hsource : Part.source (.char c) = [c] := Rewrite.escapeChar_plain hc
      rw [text_append, text_openStem, text_cons, hsource, ih, Rewrite.escape_plain hc, replaceStemsFrom,
        if_pos hspace, List.reverse_reverse]
      rfl
    · rename_i hspace
      rw [ih, List.reverse_cons, Rewrite.escape_append, List.reverse_append]
      cases hc : isMeta c with
      | false =>
        rw [Rewrite.escape_plain hc, Rewrite.escape_plain hc, replaceStemsFrom, if_neg hspace]
        rfl
      | true =>
        have hback : ¬ Unicode.isSpace '\\' = true := by decide
        rw [Rewrite.escape_meta hc, Rewrite.escape_meta hc, replaceStemsFrom, if_neg hback, replaceStemsFrom,
          if_neg hspace]
        rfl

theorem text_openStems (cs : List Char) : (openStems cs).text = replaceStems (escape cs) := text_openStemsFrom cs []

/-! ## What each family writes over -/

theorem replaceStemsFrom_space (v : List Char) : ∀ u word : List Char,
    replaceStemsFrom word (u ++ ' ' :: v) = replaceStemsFrom word u ++ ' ' :: replaceStemsFrom [] v
  | [], word => by
    have hspace : Unicode.isSpace ' ' = true := by decide
    simp only [List.nil_append, replaceStemsFrom, hspace, if_true]
  | c :: u, word => by
    rw [List.cons_append, replaceStemsFrom, replaceStemsFrom]
    split
    · rw [replaceStemsFrom_space v u [], List.append_assoc, List.cons_append]
    · exact replaceStemsFrom_space v u (c :: word)

/-- The explanation begins behind the phrase, whose only space is not followed by the word. -/
theorem cutAtFirst?_because (after : List Char) :
    cutAtFirst? Rewrite.because.toList (DiagnosticFamily.universePhrase.toList ++ after) =
      (cutAtFirst? Rewrite.because.toList after).map (Prod.map (DiagnosticFamily.universePhrase.toList ++ ·) id) := by
  have hphrase : DiagnosticFamily.universePhrase.toList = "Universe".toList ++ ' ' :: "inconsistency".toList := by
    decide
  have hbecause : Rewrite.because.toList = ' ' :: 'b' :: "ecause".toList := by decide
  have hspace : afterStart? (' ' :: 'b' :: "ecause".toList) (' ' :: ("inconsistency".toList ++ after)) = none := by
    rw [afterStart?_cons, if_pos rfl]
    exact afterStart?_of_ne (by decide) _ _
  rw [hphrase, hbecause, List.append_assoc, List.cons_append, cutAtFirst?_append (by decide),
    cutAtFirst?_of_none hspace, cutAtFirst?_append (by decide), Option.map_map, Option.map_map]
  simp only [List.append_assoc, List.cons_append]
  rfl

theorem cutAtFirst?_universePhrase (cs : List Char) :
    cutAtFirst? DiagnosticFamily.universePhrase.toList (escape cs) =
      (cutAtFirst? DiagnosticFamily.universePhrase.toList cs).map escapeCut := by
  have hphrase : DiagnosticFamily.universePhrase.toList = 'U' :: "niverse inconsistency".toList := by decide
  rw [hphrase]
  exact Rewrite.cutAtFirst?_plain (by decide) (by decide) cs

/-- The text up to the explanation is kept; what stands for the explanation has no stem. -/
theorem replaceStems_because (cs : List Char) :
    replaceStems (cs ++ Rewrite.because.toList ++ Rewrite.anything) =
      replaceStems (cs ++ Rewrite.because.toList) ++ Rewrite.anything := by
  have hbecause : Rewrite.because.toList = ' ' :: "because".toList := by decide
  have hword : replaceStemsFrom [] ("because".toList ++ Rewrite.anything) =
      replaceStemsFrom [] "because".toList ++ Rewrite.anything := by decide
  unfold replaceStems
  rw [hbecause, List.append_assoc, List.cons_append, replaceStemsFrom_space, replaceStemsFrom_space, hword,
    List.append_assoc, List.cons_append]

/-- A text is cut behind the same word, escaped or not. -/
theorem truncate_escape (cs : List Char) :
    (cutExplanation cs = (cs, false) ∧ Rewrite.truncate (escape cs) = escape cs) ∨
      ∃ kept, cutExplanation cs = (kept ++ Rewrite.because.toList, true) ∧
        Rewrite.truncate (escape cs) = escape kept ++ Rewrite.because.toList ++ Rewrite.anything := by
  have hphrase : escape DiagnosticFamily.universePhrase.toList = DiagnosticFamily.universePhrase.toList := by decide
  cases hcut : cutAtFirst? DiagnosticFamily.universePhrase.toList cs with
  | none => exact .inl (by simp only [cutExplanation, Rewrite.truncate, cutAtFirst?_universePhrase, hcut,
      Option.map_none, and_self])
  | some cut =>
    obtain ⟨before, after⟩ := cut
    have hescape : cutAtFirst? Rewrite.because.toList (escape after) =
        (cutAtFirst? Rewrite.because.toList after).map escapeCut := by
      have hword : Rewrite.because.toList = ' ' :: "because".toList := by decide
      rw [hword]
      exact Rewrite.cutAtFirst?_plain (by decide) (by decide) after
    cases hword : cutAtFirst? Rewrite.because.toList after with
    | none => exact .inl (by simp only [cutExplanation, Rewrite.truncate, cutAtFirst?_universePhrase, hcut,
        cutAtFirst?_because, hescape, hword, Option.map_none, Option.map_some, escapeCut, Prod.map, and_self])
    | some cut =>
      obtain ⟨between, rest⟩ := cut
      refine .inr ⟨before ++ DiagnosticFamily.universePhrase.toList ++ between, ?_, ?_⟩
      · simp only [cutExplanation, hcut, hword]
      · simp only [Rewrite.truncate, cutAtFirst?_universePhrase, hcut, cutAtFirst?_because, hescape, hword,
          Option.map_some, escapeCut, Prod.map, Rewrite.escape_append, hphrase, List.append_assoc]

theorem text_ofUniverse (cs : List Char) : (ofUniverse cs).text = replaceStems (Rewrite.truncate (escape cs)) := by
  have hbecause : escape Rewrite.because.toList = Rewrite.because.toList := by decide
  unfold ofUniverse
  rcases truncate_escape cs with ⟨hcut, htext⟩ | ⟨kept, hcut, htext⟩
  · rw [hcut, htext]
    simpa using text_openStems cs
  · rw [hcut, htext, replaceStems_because, ← hbecause, ← Rewrite.escape_append, ← text_openStems]
    simp only [if_true]
    rw [text_append]
    rfl

theorem text_ofUnsatisfied (cs : List Char) : (ofUnsatisfied cs).text = Rewrite.replaceUnsatisfied (escape cs) := by
  have hheader : escape Rewrite.unsatisfiedHeader.toList = Rewrite.unsatisfiedHeader.toList := by decide
  have hfirst : cutAtFirst? Rewrite.unsatisfiedHeader.toList (escape cs) =
      (cutAtFirst? Rewrite.unsatisfiedHeader.toList cs).map escapeCut := by
    have hword : Rewrite.unsatisfiedHeader.toList = 'E' :: "rror: Unsatisfied constraints:".toList := by decide
    rw [hword]
    exact Rewrite.cutAtFirst?_plain (by decide) (by decide) cs
  cases hcut : cutAtFirst? Rewrite.unsatisfiedHeader.toList cs with
  | none => simp only [ofUnsatisfied, Rewrite.replaceUnsatisfied, hfirst, hcut, Option.map_none, text_literal]
  | some cut =>
    obtain ⟨before, after⟩ := cut
    have hlast : cutAtLast? (escape Rewrite.unsatisfiedFooter.toList) (escape after) =
        (cutAtLast? Rewrite.unsatisfiedFooter.toList after).map escapeCut := by
      have hword : Rewrite.unsatisfiedFooter.toList = '(' :: "maybe a bugged tactic)".toList := by decide
      rw [hword]
      exact Rewrite.cutAtLast?_escape (by decide) _ after
    cases hword : cutAtLast? Rewrite.unsatisfiedFooter.toList after with
    | none => simp only [ofUnsatisfied, Rewrite.replaceUnsatisfied, hfirst, hcut, hlast, hword, Option.map_none,
        Option.map_some, escapeCut, Prod.map, text_literal]
    | some cut =>
      obtain ⟨between, rest⟩ := cut
      simp only [ofUnsatisfied, Rewrite.replaceUnsatisfied, hfirst, hcut, hlast, hword, Option.map_some, escapeCut,
        Prod.map, text_append, text_cons, text_literal, Rewrite.escape_append, hheader, Part.source, List.append_assoc]

theorem text_ofUnsatisfiable (cs : List Char) :
    (ofUnsatisfiable cs).text = Rewrite.replaceUnsatisfiable (escape cs) := by
  have hheader : escape Rewrite.unsatisfiableHeader.toList = Rewrite.unsatisfiableHeader.toList := by decide
  have hfirst : cutAtFirst? Rewrite.unsatisfiableHeader.toList (escape cs) =
      (cutAtFirst? Rewrite.unsatisfiableHeader.toList cs).map escapeCut := by
    have hword : Rewrite.unsatisfiableHeader.toList =
        'E' :: "rror: Unable to satisfy the following constraints:".toList := by decide
    rw [hword]
    exact Rewrite.cutAtFirst?_plain (by decide) (by decide) cs
  cases hcut : cutAtFirst? Rewrite.unsatisfiableHeader.toList cs with
  | none => simp only [ofUnsatisfiable, Rewrite.replaceUnsatisfiable, hfirst, hcut, Option.map_none, text_literal]
  | some cut =>
    obtain ⟨before, rest⟩ := cut
    simp only [ofUnsatisfiable, Rewrite.replaceUnsatisfiable, hfirst, hcut, Option.map_some, escapeCut, Prod.map,
      text_append, text_literal, Rewrite.escape_append, hheader]
    rfl

/-- **What a family writes over** in the escaped text is what its template leaves open. -/
theorem text_ofFamily (family : DiagnosticFamily) (cs : List Char) :
    (ofFamily family cs).text = Rewrite.replaceDetails family (escape cs) := by
  cases family with
  | universeInconsistency => exact text_ofUniverse cs
  | unsatisfiedConstraints => exact text_ofUnsatisfied cs
  | unsatisfiableConstraints => exact text_ofUnsatisfiable cs
  | other => exact text_literal cs

end Diagnostics.Template
