import Diagnostics.Sandbox.Shell.Option

/-!
# Limits

The command that shows and sets limits of resources. Limits that have been set are remembered; what has not been set
is as the system has it.
-/

namespace Diagnostics.Sandbox

/-- A resource: its letter, its name with the unit, and the limit of the system. -/
structure Resource where
  letter : Char
  name : String
  usual : Option Nat := none

/-- All resources. -/
def resourceTable : List Resource :=
  [⟨'t', "time(seconds)", none⟩, ⟨'f', "file(blocks)", none⟩, ⟨'d', "data(kbytes)", none⟩,
    ⟨'s', "stack(kbytes)", some 8192⟩, ⟨'c', "coredump(blocks)", some 0⟩, ⟨'m', "memory(kbytes)", none⟩,
    ⟨'l', "locked memory(kbytes)", some 8192⟩, ⟨'p', "process", none⟩, ⟨'n', "nofiles", some 1048576⟩,
    ⟨'v', "vmemory(kbytes)", none⟩, ⟨'w', "locks", none⟩, ⟨'r', "rtprio", some 0⟩]

namespace Act

/-- The limit of a resource as it is shown. -/
def limitText (s : Shell) (r : Resource) : Octets :=
  match (s.limits.lookup r.letter).or r.usual with
  | some n => numeral n
  | none => "unlimited".toList

/-- Show limits, or set one. -/
def ulimitCommand (args : List Octets) : Act Nat := do
  let (options, args) ← takeOptions "HSatfdscmlpnvwr" args
  let letter := ((options.filter fun o => !"HSa".toList.contains o.1).getLast?.map (·.1)).getD 'f'
  let s ← get
  let resource := (resourceTable.find? (·.letter = letter)).getD ⟨'f', "", none⟩
  match args with
  | [] => do
    if options.any (·.1 == 'a') then
      resourceTable.forM fun r =>
        print (r.name.toList ++ List.replicate (20 - r.name.length) ' ' ++ ' ' :: limitText s r ++ ['\n'])
    else print (limitText s resource ++ ['\n'])
    pure 0
  | value :: more => do
    if !more.isEmpty || options.any (·.1 == 'a') then fail "too many arguments"
    if value = "unlimited".toList then
      set { s with limits := s.limits.filter (·.1 ≠ letter) }
    else
      let (n, rest) := takeNumeral 10 0 value
      unless rest.isEmpty do fail "bad number"
      set { s with limits := (letter, n) :: s.limits }
    pure 0

end Act

end Diagnostics.Sandbox
