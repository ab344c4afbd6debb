import Diagnostics.Table
import Mathlib.Data.List.Dedup

/-!
# Tables keep the first value

Looking up a key after it has been given a value. A table that is only ever asked holds a right value for each key that
was answered, and nothing else (`Table.Holds`), so that it answers as if there were no table (`Holds.ask`).
-/

namespace Diagnostics.Table

variable {α β : Type} [DecidableEq α]

theorem get?_cons (k : α) (v : β) (t : Table α β) (key : α) :
    get? ((k, v) :: t) key = if k = key then some v else t.get? key := by
  by_cases h : k = key
  · simp [get?, h]
  · simp [get?, h]

theorem get?_append (t u : Table α β) (key : α) : get? (t ++ u) key = (t.get? key).or (get? u key) := by
  induction t with
  | nil => rfl
  | cons p t ih =>
    obtain ⟨k, v⟩ := p
    rw [List.cons_append, get?_cons, get?_cons, ih]
    split <;> rfl

/-- A key has a value if and only if it occurs. -/
theorem get?_eq_none_iff {t : Table α β} {key : α} : t.get? key = none ↔ key ∉ t.map (·.1) := by
  induction t with
  | nil => simp [get?]
  | cons p t ih =>
    obtain ⟨k, v⟩ := p
    rw [get?_cons]
    split
    · rename_i h
      simp [h]
    · rename_i h
      rw [ih, List.map_cons, List.mem_cons, not_or]
      exact ⟨fun hno => ⟨Ne.symm h, hno⟩, fun hno => hno.2⟩

/-- As many values are kept as there are different keys. -/
theorem length_eq_dedup {t : Table α β} {keys : List α} (hnodup : (t.map (·.1)).Nodup)
    (hmem : ∀ k, k ∈ t.map (·.1) ↔ k ∈ keys) : t.length = keys.dedup.length := by
  have hperm := (List.perm_ext_iff_of_nodup hnodup (List.nodup_dedup keys)).2 fun k => (hmem k).trans List.mem_dedup.symm
  rw [← hperm.length_eq, List.length_map]

theorem keep_of_none {t : Table α β} {key : α} (h : t.get? key = none) (v : β) : t.keep key v = (key, v) :: t := by
  rw [keep, h]

theorem keep_of_some {t : Table α β} {key : α} {value : β} (h : t.get? key = some value) (v : β) :
    t.keep key v = t := by
  rw [keep, h]

/-- A key keeps the value that it has. -/
theorem get?_keep (t : Table α β) (key : α) (value : β) (k : α) :
    (t.keep key value).get? k = (t.get? k).or (if key = k then some value else none) := by
  cases hget : t.get? key with
  | some other =>
    rw [keep_of_some hget]
    split
    · rename_i hk
      rw [← hk, hget]
      rfl
    · rw [Option.or_none]
  | none =>
    rw [keep_of_none hget, get?_cons]
    split
    · rename_i hk
      rw [← hk, hget]
      rfl
    · rw [Option.or_none]

/-! ## Asking a table -/

/-- The table holds a right value for each of the keys, and for no other. -/
structure Holds (t : Table α β) (right : α → β → Prop) (keys : List α) : Prop where
  right : ∀ {key value}, t.get? key = some value → right key value
  mem_iff : ∀ key, key ∈ t.map (·.1) ↔ key ∈ keys
  nodup : (t.map (·.1)).Nodup

namespace Holds

variable {t : Table α β} {right : α → β → Prop} {keys : List α} {key : α} {value : β}

theorem empty (right : α → β → Prop) : Holds ([] : Table α β) right [] :=
  { right := nofun, mem_iff := fun _ => Iff.rfl, nodup := List.nodup_nil }

theorem length_eq (h : t.Holds right keys) : t.length = keys.dedup.length := length_eq_dedup h.nodup h.mem_iff

/-- A key that has a value is one of the keys. -/
theorem mem_of_some (h : t.Holds right keys) (hget : t.get? key = some value) : key ∈ keys := by
  by_contra hmem
  have hnone := get?_eq_none_iff.2 (mt (h.mem_iff key).1 hmem)
  rw [hget] at hnone
  cases hnone

/-- One more key gets a right value. -/
theorem keep (h : t.Holds right keys) (hvalue : right key value) : (t.keep key value).Holds right (keys ++ [key]) := by
  cases hget : t.get? key with
  | some other =>
    rw [keep_of_some hget]
    refine { h with mem_iff := fun k => (h.mem_iff k).trans ?_ }
    rw [List.mem_append, List.mem_singleton]
    exact ⟨.inl, fun hk => hk.elim id fun hk => hk ▸ h.mem_of_some hget⟩
  | none =>
    rw [keep_of_none hget]
    refine { right := fun {k v} hk => ?_, mem_iff := fun k => ?_, nodup := ?_ }
    · rw [get?_cons] at hk
      split at hk
      · rename_i hkey
        obtain rfl := hkey
        exact Option.some.inj hk ▸ hvalue
      · exact h.right hk
    · rw [List.map_cons, List.mem_cons, h.mem_iff, List.mem_append, List.mem_singleton, or_comm]
    · exact List.nodup_cons.2 ⟨get?_eq_none_iff.1 hget, h.nodup⟩

/-- **Asking the table** gives the answer that is computed, and a right answer is kept. -/
theorem ask {ε : Type} (h : t.Holds right keys) (key : α) (compute : Unit → Except ε β)
    (hright : ∀ v, right key v ↔ compute () = .ok v) :
    (t.ask key compute).1 = compute () ∧
      (t.ask key compute).2.Holds right (keys ++ ((compute ()).toOption.map fun _ => key).toList) := by
  cases hget : t.get? key with
  | some value =>
    have hcompute : compute () = .ok value := (hright value).1 (h.right hget)
    have hkeep := h.keep (h.right hget)
    rw [keep_of_some hget] at hkeep
    have hask : t.ask key compute = (.ok value, t) := by simp only [Table.ask, hget]
    rw [hask, hcompute]
    exact ⟨rfl, hkeep⟩
  | none =>
    cases hcompute : compute () with
    | ok value =>
      have hask : t.ask key compute = (.ok value, t.keep key value) := by simp only [Table.ask, hget, hcompute]
      rw [hask]
      exact ⟨rfl, h.keep ((hright value).2 hcompute)⟩
    | error e =>
      have hask : t.ask key compute = (.error e, t) := by simp only [Table.ask, hget, hcompute]
      rw [hask]
      exact ⟨rfl, (List.append_nil keys).symm ▸ h⟩

end Holds

/-- What cannot be answered changes nothing. -/
theorem ask_of_isNone {ε : Type} (t : Table α β) (key : α) (compute : Unit → Except ε β)
    (h : (compute ()).toOption.isNone = true) : (t.ask key compute).2 = t := by
  unfold ask
  split
  · rfl
  · split
    · rename_i value hvalue
      rw [hvalue] at h
      cases h
    · rfl

end Diagnostics.Table
