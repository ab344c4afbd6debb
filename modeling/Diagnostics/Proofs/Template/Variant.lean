import Diagnostics.Proofs.Template.Own
import Mathlib.Data.List.TakeWhile

/-!
# Variants of an error text

Two runs of the same error differ in the names of temporary files and, mostly, in numbers. A variant of a text has
other temporary names and other numbers in the places of the text's own (`Variant`): names are cut out from left
to right, each as long as it goes, and numbers are the runs of digits that are left. Where the numbers are what
the error is about they stay (`KeepsNumbers`). The template of a text of no special family stands for the variants
of that text and for no others (`spells_ofBody_iff_variant`).
-/

namespace Diagnostics.Template

open Rewrite (instancePhrase isTempChar)

/-- The name of a temporary file. -/
def IsTempName (v : List Char) : Prop :=
  ∃ u, v = 't' :: 'm' :: 'p' :: u ∧ u ≠ [] ∧ ∀ c ∈ u, isTempChar c = true

/-- A run of the digits 0 to 9. -/
def IsDigits (v : List Char) : Prop := v ≠ [] ∧ ∀ c ∈ v, c.isDigit = true

/-- A run of digits of any script. -/
def IsNumber (v : List Char) : Prop := v ≠ [] ∧ ∀ c ∈ v, Unicode.isDigit c = true

/-- The text does not begin with a character of the kind, so a run of the kind ends in front of it. -/
def Ends (p : Char → Bool) (cs : List Char) : Prop := ∀ c, cs.head? = some c → p c = false

/-- No temporary name begins the text. -/
def NoName (cs : List Char) : Prop := ∀ n b, IsTempName n → cs ≠ n ++ b

/-- The second text is the first with other temporary names and, unless they are fixed, other numbers. -/
inductive Variant (fixed : Prop) : List Char → List Char → Prop
  | nil : Variant fixed [] []
  | name {n n' b w : List Char} (hn : IsTempName n) (hend : Ends isTempChar b) (hn' : IsTempName n')
    (h : Variant fixed b w) : Variant fixed (n ++ b) (n' ++ w)
  | number {d d' b w : List Char} (hopen : ¬ fixed) (hd : IsDigits d) (hend : Ends Char.isDigit b)
    (hd' : IsNumber d') (h : Variant fixed b w) : Variant fixed (d ++ b) (d' ++ w)
  | char {c : Char} {b w : List Char} (hname : NoName (c :: b)) (hdigit : c.isDigit = true → fixed)
    (h : Variant fixed b w) : Variant fixed (c :: b) (c :: w)

/-- The text with its temporary names left open, and nothing else. -/
inductive Abstracted : List Char → Template → Prop
  | nil : Abstracted [] []
  | name {n b : List Char} {t : Template} (hn : IsTempName n) (hend : Ends isTempChar b) (h : Abstracted b t) :
    Abstracted (n ++ b) (.tempName :: t)
  | char {c : Char} {b : List Char} {t : Template} (hname : NoName (c :: b)) (h : Abstracted b t) :
    Abstracted (c :: b) (.char c :: t)

/-- The numbers of the text are what the error is about: apart from the temporary names it says so. -/
def KeepsNumbers (cs : List Char) : Prop := ∃ t, Abstracted cs t ∧ literal instancePhrase.toList <:+: t

/-! ## Runs -/

theorem dropWhile_run {p : Char → Bool} {u b : List Char} (hu : ∀ c ∈ u, p c = true) (hb : Ends p b) :
    (literal (u ++ b)).dropWhile (Part.isChar p) = literal b := by
  induction u with
  | nil =>
    cases b with
    | nil => rfl
    | cons c b =>
      have hc : p c = false := hb c rfl
      simp [literal, Part.isChar, hc]
  | cons c u ih =>
    have hc : p c = true := hu c (by simp)
    have hpart : Part.isChar p (.char c) = true := hc
    rw [List.cons_append, literal, List.map_cons, List.dropWhile_cons, if_pos hpart]
    exact ih fun d hd => hu d (List.mem_cons_of_mem c hd)

theorem ends_dropWhile (p : Char → Bool) (cs : List Char) : Ends p (cs.dropWhile p) := by
  induction cs with
  | nil => simp [Ends]
  | cons c cs ih =>
    rw [List.dropWhile_cons]
    split
    · exact ih
    · rename_i hc
      simpa [Ends] using hc

/-- A text begins with a temporary name, which can be taken as long as it goes, or it does not. -/
theorem name_or_noName (cs : List Char) :
    (∃ n b, cs = n ++ b ∧ IsTempName n ∧ Ends isTempChar b) ∨ NoName cs := by
  by_cases h : NoName cs
  · exact .inr h
  · simp only [NoName, not_forall, not_not] at h
    obtain ⟨_, b, ⟨u, rfl, hne, hu⟩, rfl⟩ := h
    refine .inl ⟨'t' :: 'm' :: 'p' :: (u ++ b.takeWhile isTempChar), b.dropWhile isTempChar, ?_, ?_, ends_dropWhile _ _⟩
    · simp
    · refine ⟨_, rfl, by simp [hne], fun c hc => ?_⟩
      rcases List.mem_append.1 hc with hc | hc
      · exact hu c hc
      · exact List.mem_takeWhile_imp hc

/-! ## Opening a text step by step -/

/-- A part with which no name begins stays. -/
theorem openTempNames_cons {part : Part} {t : Template}
    (h : ∀ c s, part = .char 't' → t = .char 'm' :: .char 'p' :: .char c :: s → isTempChar c = false) :
    openTempNames (part :: t) = part :: openTempNames t := by
  rw [openTempNames.eq_def]
  split
  · rename_i heq
    cases heq
  · rename_i c rest heq
    obtain ⟨rfl, rfl⟩ := List.cons.inj heq
    rw [if_neg (by simp [h c rest rfl rfl])]
  · rename_i other rest _ heq
    obtain ⟨rfl, rfl⟩ := List.cons.inj heq
    rfl

theorem openTempNames_name {n b : List Char} (hn : IsTempName n) (hb : Ends isTempChar b) :
    openTempNames (literal (n ++ b)) = .tempName :: openTempNames (literal b) := by
  obtain ⟨u, rfl, hne, hu⟩ := hn
  cases u with
  | nil => exact absurd rfl hne
  | cons c u =>
    have hc : isTempChar c = true := hu c (by simp)
    have hrest := dropWhile_run (fun d hd => hu d (List.mem_cons_of_mem c hd)) hb
    show openTempNames (.char 't' :: .char 'm' :: .char 'p' :: .char c :: literal (u ++ b)) = _
    rw [openTempNames, if_pos hc, hrest]

theorem openTempNames_char {c : Char} {b : List Char} (h : NoName (c :: b)) :
    openTempNames (literal (c :: b)) = .char c :: openTempNames (literal b) := by
  refine openTempNames_cons fun d s hc hb => ?_
  obtain rfl : c = 't' := Part.char.inj hc
  -- the text begins with `tmp`, so what follows cannot be a character of a name
  obtain ⟨b', rfl⟩ : ∃ b', b = 'm' :: 'p' :: d :: b' := by
    rcases b with _ | ⟨m, _ | ⟨p, _ | ⟨e, b'⟩⟩⟩
    · simp at hb
    · simp at hb
    · simp at hb
    · simp only [List.map_cons, List.cons.injEq, Part.char.injEq] at hb
      obtain ⟨rfl, rfl, rfl, -⟩ := hb
      exact ⟨b', rfl⟩
  by_contra hd
  exact h ['t', 'm', 'p', d] b' ⟨[d], rfl, by simp, by simpa using hd⟩ rfl

/-- Opening the names of a text is abstracting from them. -/
theorem abstracted_iff {cs : List Char} {t : Template} : Abstracted cs t ↔ t = openTempNames (literal cs) := by
  constructor
  · intro h
    induction h with
    | nil => exact openTempNames.eq_1.symm
    | name hn hend _ ih => rw [openTempNames_name hn hend, ih]
    | char hname _ ih => rw [openTempNames_char hname, ih]
  · rintro rfl
    induction hlen : cs.length using Nat.strongRecOn generalizing cs with
    | ind k ih =>
      rcases name_or_noName cs with ⟨n, b, rfl, hn, hend⟩ | hname
      · rw [openTempNames_name hn hend]
        have hpos : 0 < n.length := by obtain ⟨u, rfl, -⟩ := hn; simp
        exact .name hn hend (ih _ (by rw [← hlen, List.length_append]; omega) rfl)
      · cases cs with
        | nil => rw [literal, List.map_nil, openTempNames]; exact .nil
        | cons c b =>
          rw [openTempNames_char hname]
          exact .char hname (ih _ (by rw [← hlen]; simp) rfl)

theorem keepsNumbers_iff (cs : List Char) : keepsNumbers (openTempNames (literal cs)) = true ↔ KeepsNumbers cs := by
  rw [keepsNumbers, occursIn_iff]
  constructor
  · exact fun h => ⟨_, abstracted_iff.2 rfl, h⟩
  · rintro ⟨t, ht, h⟩
    rwa [← abstracted_iff.1 ht]

theorem noName_of_ne {c : Char} (h : c ≠ 't') (b : List Char) : NoName (c :: b) := by
  rintro n b' ⟨u, rfl, -⟩ heq
  exact h (List.cons.inj heq).1

theorem openTempNames_digits {d b : List Char} (hd : ∀ c ∈ d, c.isDigit = true) :
    openTempNames (literal (d ++ b)) = literal d ++ openTempNames (literal b) := by
  induction d with
  | nil => rfl
  | cons c d ih =>
    have hc : c ≠ 't' := by
      rintro rfl
      exact absurd (hd 't' List.mem_cons_self) (by decide)
    rw [List.cons_append, openTempNames_char (noName_of_ne hc _), ih fun e he => hd e (List.mem_cons_of_mem c he)]
    rfl

/-- Opening the names of a text puts no digit in front of it. -/
theorem dropWhile_openTempNames {b : List Char} (hb : Ends Char.isDigit b) :
    (openTempNames (literal b)).dropWhile (Part.isChar Char.isDigit) = openTempNames (literal b) := by
  rcases name_or_noName b with ⟨n, b', rfl, hn, hend⟩ | hname
  · rw [openTempNames_name hn hend]
    rfl
  · cases b with
    | nil => rw [literal, List.map_nil, openTempNames]; rfl
    | cons c b =>
      have hc : c.isDigit = false := hb c rfl
      rw [openTempNames_char hname, List.dropWhile_cons, if_neg (by simp [Part.isChar, hc])]

/-- A part that is no digit stays. -/
theorem openNumbers_cons {part : Part} (h : part.isChar Char.isDigit = false) (t : Template) :
    openNumbers (part :: t) = part :: openNumbers t := by
  rw [openNumbers.eq_def]
  split
  · rename_i heq
    cases heq
  · rename_i c rest heq
    obtain ⟨rfl, rfl⟩ := List.cons.inj heq
    have hc : c.isDigit = false := h
    rw [if_neg (by simp [hc])]
  · rename_i other rest _ heq
    obtain ⟨rfl, rfl⟩ := List.cons.inj heq
    rfl

theorem openNumbers_char {c : Char} (hc : c.isDigit = false) (t : Template) :
    openNumbers (.char c :: t) = .char c :: openNumbers t := by
  have hpart : Part.isChar Char.isDigit (.char c) = false := hc
  exact openNumbers_cons hpart t

theorem dropWhile_digits {d : List Char} (hd : ∀ c ∈ d, c.isDigit = true) (t : Template) :
    (literal d ++ t).dropWhile (Part.isChar Char.isDigit) = t.dropWhile (Part.isChar Char.isDigit) := by
  refine List.dropWhile_append_of_pos fun part hpart => ?_
  obtain ⟨c, hc, rfl⟩ := List.mem_map.1 hpart
  exact hd c hc

theorem openNumbers_digits {d b : List Char} (hd : IsDigits d) (hb : Ends Char.isDigit b) :
    openNumbers (openTempNames (literal (d ++ b))) = .number :: openNumbers (openTempNames (literal b)) := by
  rw [openTempNames_digits hd.2]
  obtain ⟨hne, hd⟩ := hd
  cases d with
  | nil => exact absurd rfl hne
  | cons c d =>
    show openNumbers (.char c :: (literal d ++ _)) = _
    rw [openNumbers, if_pos (hd c (by simp)), dropWhile_digits (fun e he => hd e (List.mem_cons_of_mem c he)),
      dropWhile_openTempNames hb]

/-! ## The texts of the template -/

/-- Open the numbers unless they are kept. -/
def openUnless (keep : Bool) (t : Template) : Template := if keep then t else openNumbers t

theorem openUnless_cons {part : Part} (h : part.isChar Char.isDigit = false) (keep : Bool) (t : Template) :
    openUnless keep (part :: t) = part :: openUnless keep t := by
  cases keep
  · exact openNumbers_cons h t
  · rfl

theorem openUnless_char {keep : Bool} {c : Char} (hc : c.isDigit = true → keep = true) (t : Template) :
    openUnless keep (.char c :: t) = .char c :: openUnless keep t := by
  cases keep
  · exact openNumbers_char (by simpa using hc) t
  · rfl

theorem openUnless_nil (keep : Bool) : openUnless keep [] = [] := by
  cases keep
  · exact openNumbers.eq_1
  · rfl

/-- **The template spells every variant.** -/
theorem spells_of_variant {keep : Bool} {cs w : List Char} (h : Variant (keep = true) cs w) :
    Spells (openUnless keep (openTempNames (literal cs))) w := by
  induction h with
  | nil => rw [literal, List.map_nil, openTempNames, openUnless_nil]; exact .nil
  | name hn hend hn' _ ih =>
    rw [openTempNames_name hn hend, openUnless_cons rfl]
    exact .cons hn' ih
  | number hopen hd hend hd' _ ih =>
    obtain rfl : keep = false := by simpa using hopen
    simp only [openUnless, Bool.false_eq_true, if_false] at ih ⊢
    rw [openNumbers_digits hd hend]
    exact .cons hd' ih
  | char hname hdigit _ ih =>
    rw [openTempNames_char hname, openUnless_char hdigit]
    exact spells_char_cons.2 ⟨_, rfl, ih⟩

/-- **The template spells nothing but variants.** -/
theorem variant_of_spells {keep : Bool} {cs w : List Char}
    (h : Spells (openUnless keep (openTempNames (literal cs))) w) : Variant (keep = true) cs w := by
  induction hlen : cs.length using Nat.strongRecOn generalizing cs w with
  | ind k ih =>
    rcases name_or_noName cs with ⟨n, b, rfl, hn, hend⟩ | hname
    · rw [openTempNames_name hn hend, openUnless_cons rfl] at h
      obtain ⟨n', v, rfl, hn', hv⟩ := spells_cons.1 h
      have hpos : 0 < n.length := by obtain ⟨u, rfl, -⟩ := hn; simp
      exact .name hn hend hn' (ih _ (by rw [← hlen, List.length_append]; omega) hv rfl)
    · cases cs with
      | nil =>
        rw [literal, List.map_nil, openTempNames, openUnless_nil] at h
        rw [spells_nil.1 h]
        exact .nil
      | cons c b =>
        by_cases hdigit : c.isDigit = true → keep = true
        · rw [openTempNames_char hname, openUnless_char hdigit] at h
          obtain ⟨v, rfl, hv⟩ := spells_char_cons.1 h
          exact .char hname hdigit (ih _ (by rw [← hlen]; simp) hv rfl)
        · -- an open number: it goes as far as the digits do
          simp only [Classical.not_imp, Bool.not_eq_true] at hdigit
          obtain ⟨hc, rfl⟩ := hdigit
          have hd : IsDigits (c :: b.takeWhile Char.isDigit) := by
            refine ⟨by simp, fun e he => ?_⟩
            rcases List.mem_cons.1 he with rfl | he
            · exact hc
            · exact List.mem_takeWhile_imp he
          have hsplit : c :: b = (c :: b.takeWhile Char.isDigit) ++ b.dropWhile Char.isDigit := by simp
          have hlt : (b.dropWhile Char.isDigit).length < k := by
            have := (List.dropWhile_suffix (l := b) Char.isDigit).length_le
            rw [← hlen, List.length_cons]
            omega
          rw [hsplit] at h ⊢
          simp only [openUnless, Bool.false_eq_true, if_false] at h
          rw [openNumbers_digits hd (ends_dropWhile _ _)] at h
          obtain ⟨d', v, rfl, hd', hv⟩ := spells_cons.1 h
          exact .number (by simp) hd (ends_dropWhile _ _) hd' (ih _ hlt (by simpa [openUnless] using hv) rfl)

/-- A text is a variant of itself. -/
theorem Variant.refl (fixed : Prop) (cs : List Char) : Variant fixed cs cs := by
  have hown : Spells (openTempNames (literal cs)) cs := spells_openTempNames (spells_literal.2 rfl)
  by_cases hfixed : fixed
  · have hkeep : Variant (true = true) cs cs := variant_of_spells hown
    simpa [hfixed] using hkeep
  · have hopen : Variant (false = true) cs cs := variant_of_spells (spells_openNumbers hown)
    simpa [hfixed] using hopen

/-- **The template of an error of no special family** stands for the variants of its text. -/
theorem spells_ofBody_iff_variant {b : String} (hb : DiagnosticFamily.classify b = .other) {w : List Char} :
    Spells (ofBody b) w ↔ Variant (KeepsNumbers b.toList) b.toList w := by
  have hkeep : ((literal b.toList).openTempNames.keepsNumbers = true) = KeepsNumbers b.toList :=
    propext (keepsNumbers_iff b.toList)
  have hbody : ofBody b =
      openUnless (literal b.toList).openTempNames.keepsNumbers (literal b.toList).openTempNames := by
    simp only [ofBody, hb, ofFamily, openUnless]
  rw [hbody, ← hkeep]
  exact ⟨variant_of_spells, spells_of_variant⟩

end Diagnostics.Template
