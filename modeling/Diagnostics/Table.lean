/-!
# Tables

A table keeps the first value that each key is given. A later value for the same key changes nothing.
-/

namespace Diagnostics

/-- A table of values by key: a key occurs at most once. -/
abbrev Table (α β : Type) := List (α × β)

namespace Table

/-- The value of a key. -/
def get? [DecidableEq α] (t : Table α β) (key : α) : Option β :=
  (t.find? (·.1 = key)).map (·.2)

/-- Give a key a value, unless it has one already. -/
def keep [DecidableEq α] (t : Table α β) (key : α) (value : β) : Table α β :=
  match t.get? key with
  | some _ => t
  | none => (key, value) :: t

/-- Answer from the table; ask if it has no answer, and keep what comes back unless it is an error. -/
def ask [DecidableEq α] (t : Table α β) (key : α) (compute : Unit → Except ε β) :
    Except ε β × Table α β :=
  match t.get? key with
  | some value => (.ok value, t)
  | none =>
    match compute () with
    | .ok value => (.ok value, t.keep key value)
    | .error e => (.error e, t)

end Table

end Diagnostics
