import Diagnostics.Toml.Error

/-!
# Trees of values

A document is a table of values by key. A table remembers how it came to be, because that decides who may
add to it: a header opens a table once, and only if no value or dotted key made it; a dotted key may enter
tables that are only implied by other headers but may add only to tables made by dotted keys; a table written
between braces is closed.
-/

namespace Diagnostics.Toml

/-- How a table came to be. -/
inductive Origin
  | header
  | implied
  | dotted
  | braces
  deriving DecidableEq

/-- A value. Its place is the number of characters from its start to the end of the document. -/
inductive Node
  | text (place : Nat) (s : String)
  | whole (place : Nat) (n : Int)
  | real (place : Nat) (bits : UInt64)
  | bool (place : Nat) (b : Bool)
  | moment (place : Nat)
  | array (place : Nat) (items : List Node)
  | table (place : Nat) (origin : Origin) (entries : List (String × Node))
  | tables (place : Nat) (latestFirst : List Node)

/-- Values by key, in the order in which the keys were first met. -/
abbrev Entries := List (String × Node)

/-- Where a value starts. -/
def Node.place : Node → Nat
  | text place _ => place
  | whole place _ => place
  | real place _ => place
  | bool place _ => place
  | moment place => place
  | array place _ => place
  | table place _ _ => place
  | tables place _ => place

namespace Entries

/-- Change the value of a key, or give it one. -/
def alter (key : String) (change : Option Node → Except Fault Node) : Entries → Except Fault Entries
  | [] => do pure [(key, ← change none)]
  | (k, node) :: rest =>
    if k = key then do pure ((k, ← change (some node)) :: rest)
    else do pure ((k, node) :: (← alter key change rest))

/-- Tables that are made on the way by a dotted key, or by a header. -/
def madeOnTheWay (dotted : Bool) : Origin := if dotted then .dotted else .implied

/-- Follow keys into a table and change the entries there. Missing tables are made on the way; of several
tables with one header the latest is entered. A table between braces is closed, and a table with a header of
its own is closed to dotted keys. -/
def within (dotted : Bool) (place : Nat) (change : Origin → Entries → Except Fault Entries) :
    List String → Origin → Entries → Except Fault Entries
  | [], origin, entries => change origin entries
  | key :: path, _, entries =>
    alter key (fun
      | none => do
        let made := madeOnTheWay dotted
        pure (.table place made (← within dotted place change path made []))
      | some (.table place' origin inside) =>
        if origin = .braces ∨ (dotted ∧ origin = .header) then .error (.duplicateKey key)
        else do pure (.table place' origin (← within dotted place change path origin inside))
      | some (.tables place' (.table start origin inside :: before)) => do
        let inside ← within dotted place change path origin inside
        pure (.tables place' (.table start origin inside :: before))
      | some _ => .error (.duplicateKey key)) entries

/-- Give a key a value that it must not have yet. -/
def add (key : String) (node : Node) : Entries → Except Fault Entries :=
  alter key fun
    | none => .ok node
    | some _ => .error (.duplicateKey key)

/-- Add a value under dotted keys, all but the last of which name tables. The table that gets the value must
have been made by dotted keys too. -/
def assign (place : Nat) (path : List String) (key : String) (node : Node) (origin : Origin)
    (entries : Entries) : Except Fault Entries :=
  within true place (fun origin inside =>
    if !path.isEmpty && origin != .dotted then .error (.duplicateKey key) else add key node inside)
    path origin entries

/-- Open the table of a header. -/
def openTable (place : Nat) (path : List String) (key : String) (entries : Entries) :
    Except Fault Entries :=
  within false place (fun _ inside =>
    alter key (fun
      | none => .ok (.table place .header [])
      | some (.table _ .implied inside) => .ok (.table place .header inside)
      | some _ => .error (.duplicateKey key)) inside) path .header entries

/-- Open one more table of a header that may stand several times. -/
def openNext (place : Nat) (path : List String) (key : String) (entries : Entries) :
    Except Fault Entries :=
  within false place (fun _ inside =>
    alter key (fun
      | none => .ok (.tables place [.table place .header []])
      | some (.tables place' items) => .ok (.tables place' (.table place .header [] :: items))
      | some _ => .error (.duplicateKey key)) inside) path .header entries

end Entries

end Diagnostics.Toml
