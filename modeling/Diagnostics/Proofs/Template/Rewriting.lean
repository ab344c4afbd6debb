import Diagnostics.Generalize
import Diagnostics.Proofs.Template.Details

/-!
# Rewriting an escaped text gives the source of its template

The source of a pattern is made by writing over an escaped text, step after step. No step takes a backslash from the
character it belongs to, and none finds anything in what a step before it has written. So each step does to the
source of a template what the step of the template does to the template itself, and in the end there is the source of
the template of the text (`generalizeBody_eq`).
-/

namespace Diagnostics.Template

open Regex (isMeta)
open Rewrite (anyNumber anyStem anything anyTempName escape instancePhrase isTempChar replaceTempNames replaceNumbers)

/-- The part begins with a character of the kind that stands for itself, or with one not of the kind. -/
def Begins (f : Char → Bool) (p : Part) : Prop := p.isChar f = true ∨ ∃ c u, p.source = c :: u ∧ f c = false

/-- A run of characters that stand for themselves ends in the source where it ends in the template. -/
theorem dropWhile_text {f : Char → Bool} (hf : ∀ c, f c = true → isMeta c = false) {t : Template}
    (ht : ∀ p ∈ t, Begins f p) : t.text.dropWhile f = text (t.dropWhile (Part.isChar f)) := by
  induction t with
  | nil => rfl
  | cons p t ih =>
    rw [text_cons, List.dropWhile_cons]
    split
    · rename_i hp
      cases p with
      | char c =>
        have hsource : Part.source (.char c) = [c] := Rewrite.escapeChar_plain (hf c hp)
        have hc : f c = true := hp
        rw [hsource, List.cons_append, List.nil_append, List.dropWhile_cons, if_pos hc,
          ih fun q hq => ht q (List.mem_cons_of_mem _ hq)]
      | _ => cases hp
    · rename_i hp
      obtain ⟨c, u, hsource, hc⟩ := (ht p (by simp)).resolve_left hp
      rw [text_cons, hsource, List.cons_append, List.dropWhile_cons, if_neg (by simp [hc])]

theorem begins_part {f : Char → Bool} (hf : ∀ c, f c = true → isMeta c = false) {p : Part}
    (hp : p = .tempName → f 't' = false) : Begins f p := by
  have hmeta {c : Char} (hc : isMeta c = true) : f c = false := by
    cases hfc : f c with
    | false => rfl
    | true =>
      rw [hf c hfc] at hc
      cases hc
  cases p with
  | char c =>
    cases hc : isMeta c with
    | false =>
      cases hfc : f c with
      | false => exact .inr ⟨c, [], Rewrite.escapeChar_plain hc, hfc⟩
      | true => exact .inl hfc
    | true => exact .inr ⟨'\\', [c], Rewrite.escapeChar_meta hc, hmeta Regex.isMeta_backslash⟩
  | tempName => exact .inr ⟨'t', _, rfl, hp rfl⟩
  | number => exact .inr ⟨'[', _, rfl, hmeta rfl⟩
  | stem => exact .inr ⟨'[', _, rfl, hmeta rfl⟩
  | anything => exact .inr ⟨'(', _, rfl, hmeta rfl⟩

/-- Apart from a backslash, the source of a character holds that character only. -/
theorem eq_of_mem_source {c d : Char} (h : c ∈ Part.source (.char d)) (hc : c ≠ '\\') : c = d := by
  cases hd : isMeta d with
  | false => rwa [Part.source, Rewrite.escapeChar_plain hd, List.mem_singleton] at h
  | true =>
    rw [Part.source, Rewrite.escapeChar_meta hd, List.mem_cons, List.mem_singleton] at h
    exact h.resolve_left hc

/-- A character that no expression has comes into the source by itself. -/
theorem eq_char_of_mem_source {c : Char} {p : Part} (h : c ∈ p.source) (hback : c ≠ '\\')
    (hname : p = .tempName → c ∉ anyTempName) (hother : c ∉ anyNumber ++ anyStem ++ anything) : p = .char c := by
  rw [List.mem_append, List.mem_append, not_or, not_or] at hother
  obtain ⟨⟨hnumber, hstem⟩, hanything⟩ := hother
  cases p with
  | char d => rw [eq_of_mem_source h hback]
  | tempName => exact absurd h (hname rfl)
  | number => exact absurd h hnumber
  | stem => exact absurd h hstem
  | anything => exact absurd h hanything

/-! ## Numbers -/

theorem replaceNumbers_nil : replaceNumbers [] = [] := by rw [replaceNumbers]

theorem replaceNumbers_append {u : List Char} (hu : ∀ c ∈ u, ¬ c.isDigit = true) (v : List Char) :
    replaceNumbers (u ++ v) = u ++ replaceNumbers v := by
  induction u with
  | nil => rfl
  | cons c u ih =>
    rw [List.cons_append, replaceNumbers, if_neg (hu c List.mem_cons_self),
      ih fun d hd => hu d (List.mem_cons_of_mem c hd), List.cons_append]

/-- **Writing over the numbers** of a source leaves the numbers of its template open. -/
theorem replaceNumbers_text (t : Template) : replaceNumbers t.text = (openNumbers t).text := by
  have hplain : ∀ c : Char, c.isDigit = true → isMeta c = false := by
    intro c hc
    cases hmeta : isMeta c with
    | false => rfl
    | true =>
      rw [isDigit_of_meta hmeta] at hc
      cases hc
  induction t using openNumbers.induct with
  | case1 =>
    rw [openNumbers]
    exact replaceNumbers_nil
  | case2 c rest hc ih =>
    have hsource : Part.source (.char c) = [c] := Rewrite.escapeChar_plain (hplain c hc)
    have hrun : (text rest).dropWhile Char.isDigit = text (rest.dropWhile (Part.isChar Char.isDigit)) :=
      dropWhile_text hplain fun p _ => begins_part hplain fun _ => by decide
    rw [openNumbers, if_pos hc, text_cons, hsource, List.cons_append, List.nil_append, replaceNumbers, if_pos hc, hrun,
      ih]
    rfl
  | case3 c rest hc ih =>
    have hsource : ∀ d ∈ Part.source (.char c), ¬ d.isDigit = true := by
      intro d hd
      by_cases hback : d = '\\'
      · rw [hback]
        decide
      · rwa [eq_of_mem_source hd hback]
    rw [openNumbers, if_neg hc, text_cons, text_cons, replaceNumbers_append hsource, ih]
  | case4 p rest hp ih =>
    have hsource : p.source.any Char.isDigit = false := by
      cases p with
      | char c => exact absurd rfl (hp c)
      | tempName => decide
      | number => decide
      | stem => decide
      | anything => decide
    rw [openNumbers, text_cons, text_cons, replaceNumbers_append (List.any_eq_false.1 hsource), ih]
    exact hp

/-! ## Names of temporary files -/

theorem replaceTempNames_nil : replaceTempNames [] = [] := by rw [replaceTempNames]

theorem replaceTempNames_cons {c : Char} (hc : c ≠ 't') (cs : List Char) :
    replaceTempNames (c :: cs) = c :: replaceTempNames cs := by
  rw [replaceTempNames]
  rintro d cs' rfl
  exact absurd rfl hc

theorem replaceTempNames_append {u : List Char} (hu : 't' ∉ u) (v : List Char) :
    replaceTempNames (u ++ v) = u ++ replaceTempNames v := by
  induction u with
  | nil => rfl
  | cons c u ih =>
    rw [List.mem_cons, not_or] at hu
    rw [List.cons_append, replaceTempNames_cons (Ne.symm hu.1), ih hu.2, List.cons_append]

/-- A plain character at the start of a source is a part of its own, unless a name of a temporary file is. -/
theorem text_eq_cons {t : Template} {c : Char} {cs : List Char} (h : t.text = c :: cs) (hc : isMeta c = false)
    (ht : c = 't' → t.head? ≠ some .tempName) : ∃ s : Template, t = .char c :: s ∧ cs = s.text := by
  cases t with
  | nil => cases h
  | cons p s =>
    rw [text_cons] at h
    cases p with
    | char d =>
      have hd : c = d := by
        have hmem : c ∈ Part.source (.char d) := by
          cases hsource : Part.source (.char d) with
          | nil => exact absurd hsource (by simp [Part.source, Rewrite.escapeChar]; split <;> simp)
          | cons e u =>
            rw [hsource] at h
            rw [(List.cons.inj h).1]
            exact List.mem_cons_self
        exact eq_of_mem_source hmem (Regex.ne_of_meta Regex.isMeta_backslash hc).symm
      subst hd
      rw [Part.source, Rewrite.escapeChar_plain hc] at h
      exact ⟨s, rfl, (List.cons.inj h).2.symm⟩
    | tempName => exact absurd rfl (ht (List.cons.inj h).1.symm)
    | number => obtain ⟨rfl, -⟩ := List.cons.inj h; cases hc
    | stem => obtain ⟨rfl, -⟩ := List.cons.inj h; cases hc
    | anything => obtain ⟨rfl, -⟩ := List.cons.inj h; cases hc

theorem replaceTempNames_t {cs : List Char}
    (hno : ∀ c cs', cs = 'm' :: 'p' :: c :: cs' → isTempChar c = false) :
    replaceTempNames ('t' :: cs) = 't' :: replaceTempNames cs := by
  rw [replaceTempNames.eq_def]
  split
  · rename_i h
    cases h
  · rename_i c rest h
    obtain ⟨-, rfl⟩ := List.cons.inj h
    rw [if_neg (by simp [hno c rest rfl])]
  · rename_i d rest _ h
    obtain ⟨rfl, rfl⟩ := List.cons.inj h
    rfl

theorem plain_of_tempChar {c : Char} (hc : isTempChar c = true) : isMeta c = false := by
  cases hmeta : isMeta c with
  | false => rfl
  | true =>
    have hmem := List.contains_iff_mem.1 (show List.contains _ c = true from hmeta)
    have hall := List.all_eq_true.1 (by decide : List.all _ (fun d => !isTempChar d) = true) c hmem
    simp [hc] at hall

/-- No name of a temporary file begins with a `t` in the source if none does in the template. -/
theorem replaceTempNames_t_text {s : Template} (ht : .tempName ∉ s)
    (hs : ∀ d s', s = .char 'm' :: .char 'p' :: .char d :: s' → isTempChar d = false) :
    replaceTempNames ('t' :: s.text) = 't' :: replaceTempNames s.text := by
  refine replaceTempNames_t fun d cs h => ?_
  rw [← Bool.not_eq_true]
  intro hd
  obtain ⟨s₁, rfl, h₁⟩ := text_eq_cons h rfl fun h => absurd h (by decide)
  obtain ⟨s₂, rfl, h₂⟩ := text_eq_cons h₁.symm rfl fun h => absurd h (by decide)
  have hhead : s₂.head? ≠ some .tempName := fun hhead =>
    ht (List.mem_cons_of_mem _ (List.mem_cons_of_mem _ (List.mem_of_mem_head? hhead)))
  obtain ⟨s₃, rfl, -⟩ := text_eq_cons h₂.symm (plain_of_tempChar hd) fun _ => hhead
  rw [hs d s₃ rfl] at hd
  cases hd

/-- **Writing over the names of temporary files** of a source without such names leaves those of its template
open. -/
theorem replaceTempNames_text {t : Template} (ht : .tempName ∉ t) :
    replaceTempNames t.text = (openTempNames t).text := by
  induction t using openTempNames.induct with
  | case1 =>
    rw [openTempNames]
    exact replaceTempNames_nil
  | case2 c rest hc ih =>
    have hsource : Part.source (.char c) = [c] := Rewrite.escapeChar_plain (plain_of_tempChar hc)
    have hrest : ∀ p ∈ rest, p ≠ .tempName := by
      rintro p hp rfl
      exact ht (by simp [hp])
    have hrun : (text rest).dropWhile isTempChar = text (rest.dropWhile (Part.isChar isTempChar)) :=
      dropWhile_text (fun _ => plain_of_tempChar) fun p hp =>
        begins_part (fun _ => plain_of_tempChar) fun h => absurd h (hrest p hp)
    have ht' : Part.tempName ∉ rest.dropWhile (Part.isChar isTempChar) := fun h =>
      hrest _ ((List.dropWhile_sublist _).subset h) rfl
    have hname : text (.char 't' :: .char 'm' :: .char 'p' :: .char c :: rest) =
        't' :: 'm' :: 'p' :: c :: text rest := by
      rw [text_cons, text_cons, text_cons, text_cons, hsource]
      rfl
    rw [openTempNames, if_pos hc, hname, replaceTempNames, if_pos hc, hrun, ih ht']
    rfl
  | case3 c rest hc ih =>
    rw [List.mem_cons, not_or] at ht
    have hname : text (.char 't' :: .char 'm' :: .char 'p' :: .char c :: rest) =
        't' :: text (.char 'm' :: .char 'p' :: .char c :: rest) := rfl
    rw [openTempNames, if_neg hc, hname, replaceTempNames_t_text ht.2, ih ht.2]
    · rfl
    · intro d s h
      simp only [List.cons.injEq, Part.char.injEq] at h
      rw [← h.2.2.1]
      simpa using hc
  | case4 p rest hp ih =>
    rw [List.mem_cons, not_or] at ht
    have hopen : openTempNames (p :: rest) = p :: openTempNames rest := by
      rw [openTempNames]
      exact hp
    rw [hopen, text_cons, text_cons, ← ih ht.2]
    by_cases hsource : 't' ∈ p.source
    · obtain rfl : p = .char 't' :=
        eq_char_of_mem_source hsource (by decide) (fun h => absurd h.symm ht.1) (by decide)
      exact replaceTempNames_t_text ht.2 fun d s h => absurd h (hp d s rfl)
    · exact replaceTempNames_append hsource _

/-! ## Phrases -/

/-- Characters that mean nothing in a pattern, and no `t` that could begin the expression for a name. -/
def clear : List Char → Bool
  | [] => true
  | c :: w => !isMeta c && (c != 't' || w.head?.any (· != 'm')) && clear w

/-- Such a text at the start of a source is written out in the template. -/
theorem text_eq_append {w : List Char} (hw : clear w = true) : ∀ {t : Template} {cs : List Char}, t.text = w ++ cs →
    ∃ s : Template, t = literal w ++ s ∧ cs = s.text := by
  induction w with
  | nil => exact fun {t cs} h => ⟨t, rfl, h.symm⟩
  | cons c w ih =>
    intro t cs h
    rw [clear, Bool.and_eq_true, Bool.and_eq_true, Bool.not_eq_true'] at hw
    obtain ⟨⟨hc, htemp⟩, hw⟩ := hw
    have hhead : c = 't' → t.head? ≠ some .tempName := by
      -- the expression for a name goes on with an `m`, the text does not
      rintro rfl hhead
      obtain ⟨t, rfl⟩ := List.head?_eq_some_iff.1 hhead
      have hm : 'm' :: ("p[A-Za-z_\\d]+".toList ++ text t) = w ++ cs := (List.cons.inj h).2
      cases w with
      | nil => cases htemp
      | cons d w =>
        obtain ⟨rfl, -⟩ := List.cons.inj hm
        cases htemp
    obtain ⟨s, rfl, hs⟩ := text_eq_cons h hc hhead
    obtain ⟨s', rfl, hs'⟩ := ih hw hs.symm
    exact ⟨s', rfl, hs'⟩

/-- A phrase in the source stands in the template: it begins at a part of its own, as no expression has its first
letter. -/
theorem infix_of_infix_text {w : List Char} (hw : clear ('U' :: w) = true) : ∀ {t : Template} {a b : List Char},
    t.text = a ++ ('U' :: (w ++ b)) → literal ('U' :: w) <:+: t
  | [], a, b, h => by cases a <;> cases h
  | p :: s, a, b, h => by
    by_cases hU : 'U' ∈ p.source
    · obtain rfl : p = .char 'U' := eq_char_of_mem_source hU (by decide) (fun _ => by decide) (by decide)
      cases a with
      | nil =>
        have hstart : text (.char 'U' :: s) = ('U' :: w) ++ b := h
        obtain ⟨s', hs', -⟩ := text_eq_append hw hstart
        exact ⟨[], s', by rw [hs']; rfl⟩
      | cons x a =>
        have hrest : text s = a ++ ('U' :: (w ++ b)) := (List.cons.inj h).2
        exact (infix_of_infix_text hw hrest).trans (List.infix_cons (List.infix_refl s))
    · rw [text_cons] at h
      obtain ⟨a', ha, hrest⟩ | ⟨v, hv, hrest⟩ := List.append_eq_append_iff.1 h
      · exact (infix_of_infix_text hw hrest).trans (List.infix_cons (List.infix_refl s))
      · cases v with
        | nil => exact (infix_of_infix_text (a := []) hw hrest.symm).trans (List.infix_cons (List.infix_refl s))
        | cons c v =>
          obtain ⟨rfl, -⟩ := List.cons.inj hrest
          exact absurd (by rw [hv]; simp) hU

/-- **The phrase that keeps numbers** is found in the source where it is found in the template. -/
theorem occursIn_text (t : Template) : occursIn instancePhrase.toList t.text = t.keepsNumbers := by
  have hphrase : instancePhrase.toList = 'U' :: "niverse instance should have length ".toList := by decide
  rw [Bool.eq_iff_iff, keepsNumbers, occursIn_iff, occursIn_iff, hphrase]
  constructor
  · rintro ⟨a, b, h⟩
    rw [List.append_assoc, List.cons_append] at h
    exact infix_of_infix_text (by decide) h.symm
  · rintro ⟨t₁, t₂, rfl⟩
    have hescape : escape ('U' :: "niverse instance should have length ".toList) =
        'U' :: "niverse instance should have length ".toList := by decide
    rw [text_append, text_append, text_literal, hescape]
    exact ⟨text t₁, text t₂, rfl⟩

/-! ## All steps together -/

theorem tempName_not_mem_literal (cs : List Char) : .tempName ∉ literal cs := by simp [literal]

theorem tempName_not_mem_openStem (word : List Char) : .tempName ∉ openStem word := by
  unfold openStem
  split <;> simp [tempName_not_mem_literal]

theorem tempName_not_mem_openStemsFrom (cs : List Char) : ∀ word : List Char, .tempName ∉ openStemsFrom word cs := by
  induction cs with
  | nil => exact fun word => tempName_not_mem_openStem word.reverse
  | cons c cs ih =>
    intro word
    rw [openStemsFrom]
    split
    · simp [tempName_not_mem_openStem, ih]
    · exact ih (c :: word)

/-- No family leaves a name of a temporary file open. -/
theorem tempName_not_mem_ofFamily (family : DiagnosticFamily) (cs : List Char) : .tempName ∉ ofFamily family cs := by
  cases family with
  | universeInconsistency =>
    simp only [ofFamily, ofUniverse, openStems, List.mem_append, not_or]
    refine ⟨tempName_not_mem_openStemsFrom _ _, ?_⟩
    split <;> simp
  | unsatisfiedConstraints =>
    simp only [ofFamily, ofUnsatisfied]
    split
    · exact tempName_not_mem_literal cs
    · split <;> simp [tempName_not_mem_literal]
  | unsatisfiableConstraints =>
    simp only [ofFamily, ofUnsatisfiable]
    split <;> simp [tempName_not_mem_literal]
  | other => exact tempName_not_mem_literal cs

/-- **The pattern of an error text** is the source of its template. -/
theorem generalizeBody_eq (body : String) : generalizeBody body = (ofBody body).source := by
  have hopen : replaceTempNames (Rewrite.replaceDetails (DiagnosticFamily.classify body) (escape body.toList)) =
      text (openTempNames (ofFamily (DiagnosticFamily.classify body) body.toList)) := by
    rw [← text_ofFamily, replaceTempNames_text (tempName_not_mem_ofFamily _ _)]
  unfold generalizeBody Rewrite.body ofBody
  simp only [hopen, occursIn_text]
  split
  · rfl
  · rw [replaceNumbers_text]
    rfl

end Diagnostics.Template
