import Diagnostics.Path
import Mathlib.Data.List.Basic

/-!
# What a path means

The text of a path is a root or none and segments (`text_eq`), and such segments are read back from the text that is made
of them (`segments_ofSegments`). What means nothing at their end can be dropped (`meanings_dropMeaningless`). If the last
component of a path is a name, then its segments are those before the name, the name, and some behind it that mean nothing
(`Named`). So the components of the path end in its file name, and in front of that stand the components of its parent
(`Named.components`, `Named.parent`). The path that is made for an entry of a directory is of that kind (`leadsTo_child`).
-/

namespace Diagnostics.Path

/-! ## Segments -/

theorem split_append (as bs : List Char) : split (as ++ '/' :: bs) = split as ++ split bs := by
  induction as with
  | nil => rfl
  | cons c as ih =>
    obtain ⟨s, rest, hs⟩ := List.exists_cons_of_ne_nil (split_ne_nil as)
    rw [hs, List.cons_append] at ih
    rw [List.cons_append, split, split, ih, hs]
    split <;> rfl

theorem split_of_no_slash {s : List Char} (h : '/' ∉ s) : split s = [s] := by
  induction s with
  | nil => rfl
  | cons c s ih =>
    obtain ⟨hc, hs⟩ := not_or.1 (mt List.mem_cons.2 h)
    rw [split, if_neg (Ne.symm hc), ih hs]

theorem no_slash_of_mem_split {cs s : List Char} (h : s ∈ split cs) : '/' ∉ s := by
  induction cs generalizing s with
  | nil =>
    obtain rfl := List.mem_singleton.1 h
    exact List.not_mem_nil
  | cons c cs ih =>
    obtain ⟨t, rest, ht⟩ := List.exists_cons_of_ne_nil (split_ne_nil cs)
    rw [ht] at ih
    rw [split, ht] at h
    split at h
    · rcases List.mem_cons.1 h with rfl | h
      · exact List.not_mem_nil
      · exact ih h
    · rename_i hc
      rcases List.mem_cons.1 h with rfl | h
      · rw [List.mem_cons, not_or]
        exact ⟨Ne.symm hc, ih List.mem_cons_self⟩
      · exact ih (List.mem_cons_of_mem t h)

theorem split_join {segments : List (List Char)} (hne : segments ≠ []) (h : ∀ s ∈ segments, '/' ∉ s) :
    split (join segments) = segments := by
  induction segments with
  | nil => exact absurd rfl hne
  | cons s rest ih =>
    have hs := split_of_no_slash (h s List.mem_cons_self)
    cases rest with
    | nil => exact hs
    | cons t rest =>
      have hrest := ih (List.cons_ne_nil t rest) fun u hu => h u (List.mem_cons_of_mem s hu)
      rw [join, split_append, hs, hrest, List.singleton_append]

/-- The text of the root. -/
def rootText (absolute : Bool) : List Char := if absolute then ['/'] else []

/-- Segments that a path may have: none has a slash, and the first of a relative path is not empty. -/
structure Regular (absolute : Bool) (segments : List (List Char)) : Prop where
  no_slash : ∀ s ∈ segments, '/' ∉ s
  head : absolute = false → segments.head? ≠ some []

theorem text_ofSegments (absolute : Bool) (segments : List (List Char)) :
    (ofSegments absolute segments).text.toList = rootText absolute ++ join segments := String.toList_ofList

theorem regular_segments {p : Path} (h : p.segments ≠ [[]]) : Regular p.isAbsolute p.segments := by
  constructor
  · intro s hs
    unfold segments at hs
    split at hs <;> exact no_slash_of_mem_split hs
  · intro hrelative hhead
    rw [segments, hrelative, if_neg Bool.false_ne_true] at h hhead
    have hslash : p.text.toList.head? ≠ some '/' := by
      rw [isAbsolute, beq_eq_false_iff_ne] at hrelative
      exact hrelative
    cases hcs : p.text.toList with
    | nil => exact h (by rw [hcs]; rfl)
    | cons c cs =>
      obtain ⟨s, rest, hs⟩ := List.exists_cons_of_ne_nil (split_ne_nil cs)
      have hc : c ≠ '/' := fun hc => hslash (by rw [hcs, hc]; rfl)
      rw [hcs, split, if_neg hc, hs] at hhead
      cases hhead

theorem Regular.of_append {absolute : Bool} {front back : List (List Char)} (h : Regular absolute (front ++ back)) :
    Regular absolute front := by
  refine ⟨fun s hs => h.no_slash s (List.mem_append_left back hs), fun hrelative hhead => h.head hrelative ?_⟩
  rw [List.head?_append, hhead]
  rfl

/-- The end of the segments of a path may be any other. -/
theorem Regular.replace {absolute : Bool} {front back back' : List (List Char)} (h : Regular absolute (front ++ back))
    (hslash : ∀ s ∈ back', '/' ∉ s) (hhead : back'.head? ≠ some []) : Regular absolute (front ++ back') := by
  refine ⟨fun s hs => ?_, fun hrelative => ?_⟩
  · rcases List.mem_append.1 hs with hs | hs
    · exact h.of_append.no_slash s hs
    · exact hslash s hs
  · cases front with
    | nil => exact hhead
    | cons s front => exact h.of_append.head hrelative

theorem isAbsolute_ofSegments {absolute : Bool} {segments : List (List Char)} (h : Regular absolute segments) :
    (ofSegments absolute segments).isAbsolute = absolute := by
  rw [isAbsolute, text_ofSegments]
  cases absolute with
  | true => rfl
  | false =>
    rw [rootText, if_neg Bool.false_ne_true, List.nil_append, beq_eq_false_iff_ne]
    match segments with
    | [] => nofun
    | [] :: rest => exact absurd rfl (h.head rfl)
    | (c :: s) :: rest =>
      have hc : c ≠ '/' := fun hc => h.no_slash (c :: s) List.mem_cons_self (hc ▸ List.mem_cons_self)
      have hhead : (join ((c :: s) :: rest)).head? = some c := by cases rest <;> rfl
      rw [hhead]
      exact fun heq => hc (Option.some.inj heq)

theorem segments_ofSegments {absolute : Bool} {segments : List (List Char)} (h : Regular absolute segments)
    (hne : segments ≠ []) : (ofSegments absolute segments).segments = segments := by
  have hsplit : split (join segments) = segments := split_join hne h.no_slash
  rw [Path.segments, isAbsolute_ofSegments h, text_ofSegments]
  cases absolute <;> exact hsplit

/-! ## Meanings -/

/-- What a root or none and segments mean. -/
def meanings (absolute : Bool) (segments : List (List Char)) : List Component :=
  (if absolute then [.root] else []) ++
    match segments with
    | [] => []
    | s :: rest => (component? (!absolute) s).toList ++ rest.filterMap (component? false)

/-- The segment is a name. -/
structure IsName (s : List Char) : Prop where
  ne_nil : s ≠ []
  ne_dot : s ≠ ['.']
  ne_dots : s ≠ ['.', '.']

variable {absolute first : Bool} {front back before after : List (List Char)} {s name name' : List Char}
  {p q dir : Path}

theorem components_eq (p : Path) : p.components = meanings p.isAbsolute p.segments := by
  unfold components meanings
  cases p.isAbsolute <;> rfl

theorem IsName.component? (h : IsName s) : component? first s = some (.name s) := by
  rw [Path.component?, if_neg h.ne_nil, if_neg h.ne_dot, if_neg h.ne_dots]

/-- A segment that means nothing in first place means nothing in any. -/
theorem component?_eq_none (h : component? first s = none) : component? false s = none := by
  unfold Path.component? at h ⊢
  split at h
  · rename_i hnil
    rw [if_pos hnil]
  · split at h
    · rename_i hnil hdot
      rw [if_neg hnil, if_pos hdot, if_neg Bool.false_ne_true]
    · split at h <;> cases h

theorem meanings_append (h : front ≠ []) :
    meanings absolute (front ++ back) = meanings absolute front ++ back.filterMap (component? false) := by
  obtain ⟨s, front, rfl⟩ := List.exists_cons_of_ne_nil h
  simp only [meanings, List.cons_append, List.filterMap_append, List.append_assoc]

theorem meanings_append_name (h : IsName name) (hafter : ∀ s ∈ after, component? false s = none) :
    meanings absolute (before ++ name :: after) = meanings absolute before ++ [.name name] := by
  have hnone : after.filterMap (component? false) = [] := List.filterMap_eq_nil_iff.2 hafter
  by_cases hbefore : before = []
  · rw [hbefore, List.nil_append, meanings, meanings, h.component?, hnone, List.append_nil, List.append_nil]
    rfl
  · rw [meanings_append hbefore, List.filterMap_cons, h.component?, hnone]

theorem components_ofSegments (h : Regular absolute front) :
    (ofSegments absolute front).components = meanings absolute front := by
  rw [components_eq, isAbsolute_ofSegments h]
  by_cases hne : front = []
  · rw [hne]
    cases absolute <;> rfl
  · rw [segments_ofSegments h hne]

/-! ## What means nothing -/

/-- Segments that mean nothing at the end may be dropped. -/
theorem meanings_dropMeaningless (absolute : Bool) (segments : List (List Char)) :
    meanings absolute (dropMeaningless absolute segments).reverse = meanings absolute segments.reverse := by
  fun_induction dropMeaningless absolute segments with
  | case1 => rfl
  | case2 s h =>
    have hnone := Option.isNone_iff_eq_none.1 h
    rw [List.reverse_singleton, List.reverse_nil, meanings, meanings, hnone]
    rfl
  | case3 s h => rfl
  | case4 s rest hrest h ih =>
    have hnone := Option.isNone_iff_eq_none.1 h
    have hne : rest.reverse ≠ [] := fun h => hrest (List.reverse_eq_nil_iff.1 h)
    rw [ih, List.reverse_cons, meanings_append hne, List.filterMap_cons, hnone, List.filterMap_nil, List.append_nil]
  | case5 s rest hrest h => rfl

/-- What is dropped means nothing. -/
theorem exists_append_dropMeaningless (absolute : Bool) (segments : List (List Char)) :
    ∃ behind, segments = behind ++ dropMeaningless absolute segments ∧ ∀ s ∈ behind, component? false s = none := by
  fun_induction dropMeaningless absolute segments with
  | case1 => exact ⟨[], rfl, nofun⟩
  | case2 s h =>
    refine ⟨[s], rfl, fun t ht => ?_⟩
    rw [List.mem_singleton.1 ht]
    exact component?_eq_none (Option.isNone_iff_eq_none.1 h)
  | case3 s h => exact ⟨[], rfl, nofun⟩
  | case4 s rest hrest h ih =>
    obtain ⟨behind, hbehind, hnone⟩ := ih
    refine ⟨s :: behind, congrArg (s :: ·) hbehind, fun t ht => ?_⟩
    rcases List.mem_cons.1 ht with rfl | ht
    · exact Option.isNone_iff_eq_none.1 h
    · exact hnone t ht
  | case5 s rest hrest h => exact ⟨[], rfl, nofun⟩

/-- A segment that means something in any place is not dropped, but all that means nothing behind it is. -/
theorem dropMeaningless_append (hs : ∀ first, (component? first s).isNone = false)
    (hbehind : ∀ t ∈ back, component? false t = none) :
    dropMeaningless absolute (back ++ s :: front) = s :: front := by
  induction back with
  | nil =>
    cases front with
    | nil => exact if_neg (Bool.eq_false_iff.1 (hs !absolute))
    | cons t front => exact if_neg (Bool.eq_false_iff.1 (hs false))
  | cons t back ih =>
    have ht : (component? false t).isNone = true := by
      rw [hbehind t List.mem_cons_self]
      rfl
    have hne : back ++ s :: front = [] → False := by simp
    rw [List.cons_append, dropMeaningless.eq_3 absolute t _ hne, if_pos ht,
      ih fun u hu => hbehind u (List.mem_cons_of_mem t hu)]

theorem splitLast?_eq (hsegments : p.segments = before ++ s :: after) (hs : ∀ first, (component? first s).isNone = false)
    (hafter : ∀ t ∈ after, component? false t = none) : p.splitLast? = some (before, s) := by
  have hreverse : p.segments.reverse = after.reverse ++ s :: before.reverse := by
    rw [hsegments, List.reverse_append, List.reverse_cons, List.append_assoc, List.singleton_append]
  rw [splitLast?, hreverse, dropMeaningless_append hs fun t ht => hafter t (List.mem_reverse.1 ht)]
  exact congrArg (fun l => some (l, s)) (List.reverse_reverse before)

/-! ## The file name -/

/-- The segments of the path are some, then a name, and then some that mean nothing. -/
structure Named (p : Path) (before : List (List Char)) (name : List Char) (after : List (List Char)) : Prop where
  segments : p.segments = before ++ name :: after
  isName : IsName name
  behind : ∀ s ∈ after, component? false s = none

theorem Named.splitLast? (h : p.Named before name after) : p.splitLast? = some (before, name) :=
  splitLast?_eq h.segments (fun first => by rw [h.isName.component?]; rfl) h.behind

theorem Named.fileName? (h : p.Named before name after) : p.fileName? = some name := by
  rw [Path.fileName?, h.splitLast?]
  simp only [Option.bind_eq_bind, Option.bind_some, h.isName.component?]

theorem Named.regular (h : p.Named before name after) : Regular p.isAbsolute (before ++ name :: after) := by
  rw [← h.segments]
  refine regular_segments fun hempty => h.isName.ne_nil ?_
  have hmem : name ∈ p.segments := by
    rw [h.segments]
    exact List.mem_append_right before List.mem_cons_self
  rw [hempty] at hmem
  exact List.mem_singleton.1 hmem

theorem Named.no_slash (h : p.Named before name after) : '/' ∉ name :=
  h.regular.no_slash name (List.mem_append_right before List.mem_cons_self)

/-- **The components of a path with a file name** are what stands before the name, and the name. -/
theorem Named.components (h : p.Named before name after) :
    p.components = meanings p.isAbsolute before ++ [.name name] := by
  rw [components_eq, h.segments, meanings_append_name h.isName h.behind]

/-- **The components of the parent** are what stands before the name. -/
theorem Named.parent (h : p.Named before name after) :
    ∃ dir, p.parent? = some dir ∧ dir.components = meanings p.isAbsolute before := by
  refine ⟨ofSegments p.isAbsolute (dropMeaningless p.isAbsolute before.reverse).reverse, ?_, ?_⟩
  · rw [parent?, h.splitLast?]
    rfl
  · obtain ⟨behind, hbehind, -⟩ := exists_append_dropMeaningless p.isAbsolute before.reverse
    have hbefore : before = (dropMeaningless p.isAbsolute before.reverse).reverse ++ behind.reverse := by
      rw [← List.reverse_append, ← hbehind, List.reverse_reverse]
    have hregular := h.regular.of_append
    rw [hbefore] at hregular
    rw [components_ofSegments hregular.of_append, meanings_dropMeaningless, List.reverse_reverse]

/-- The path is that of an entry of the directory: before its file name stands what leads to the directory. -/
def LeadsTo (p dir : Path) (name : List Char) : Prop :=
  ∃ before after, p.Named before name after ∧ dir.components = meanings p.isAbsolute before

theorem LeadsTo.fileName? (h : p.LeadsTo dir name) : p.fileName? = some name := by
  obtain ⟨before, after, hnamed, -⟩ := h
  exact hnamed.fileName?

theorem LeadsTo.isName (h : p.LeadsTo dir name) : IsName name := by
  obtain ⟨before, after, hnamed, -⟩ := h
  exact hnamed.isName

theorem LeadsTo.no_slash (h : p.LeadsTo dir name) : '/' ∉ name := by
  obtain ⟨before, after, hnamed, -⟩ := h
  exact hnamed.no_slash

theorem LeadsTo.components (h : p.LeadsTo dir name) : p.components = dir.components ++ [.name name] := by
  obtain ⟨before, after, hnamed, hdir⟩ := h
  rw [hnamed.components, hdir]

theorem same_iff : p.same q = true ↔ p.components = q.components := beq_iff_eq

theorem LeadsTo.parent (h : p.LeadsTo dir name) : ∃ d, p.parent? = some d ∧ d.same dir = true := by
  obtain ⟨before, after, hnamed, hdir⟩ := h
  obtain ⟨d, hd, hcomponents⟩ := hnamed.parent
  exact ⟨d, hd, same_iff.2 (hcomponents.trans hdir.symm)⟩

/-- Paths of entries of one directory are the same exactly if the names are. -/
theorem LeadsTo.same_iff (h : p.LeadsTo dir name) (h' : q.LeadsTo dir name') : p.same q = true ↔ name = name' := by
  rw [Path.same_iff, h.components, h'.components, List.append_cancel_left_eq, List.cons.injEq, Component.name.injEq]
  exact and_iff_left rfl

end Diagnostics.Path
