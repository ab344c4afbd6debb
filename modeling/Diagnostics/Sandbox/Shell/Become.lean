import Diagnostics.Sandbox.Shell.Find

/-!
# Becoming a program

How a shell becomes another program. A file that no program can be made of is a script for a shell of its own.
-/

namespace Diagnostics.Sandbox

/-- The shell that scripts without a first line of their own are for. -/
def shellPath : Octets := "/bin/sh".toList

/-- The status for a program that cannot be run: it is not there, or something else is wrong with it. -/
def statusOfError (e : OsError) : Nat :=
  if e = .noSuchFile || e = .notADirectory || e = .nameTooLong || e = tooManyLinks then 127 else 126

namespace Act

/-- Become the program at a path; what is wrong if that cannot be done. -/
def tryExecute (path : Octets) (args : List Octets) : Act OsError := do
  let environment := (← get).environment
  let e : OsError ← ask (.execute path args environment)
  if e = .execFormat then ask (.execute shellPath (shellPath :: path :: args.drop 1) environment) else pure e

/-- Become the program at the first of some paths at which one can be run. -/
def tryPaths (args : List Octets) : List Octets → OsError → Act OsError
  | [], e => pure e
  | path :: rest, e => do
    let met ← tryExecute path args
    tryPaths args rest (if met = .noSuchFile || met = .notADirectory then e else met)

/-- Become a program and stop if that cannot be done. A name without a slash is looked for in directories, beginning
where the program has been found. -/
def become (roads : Octets) (known : Option Octets) (args : List Octets) : Act α := do
  let name := args.headD []
  let e ←
    if name.contains '/' then tryExecute name args
    else
      let paths := pathEntries roads name
      tryPaths args (match known with
        | some path => paths.dropWhile (· ≠ path)
        | none => paths) .noSuchFile
  complain (name ++ ": ".toList ++ Purpose.run.words e)
  modify fun s => { s with status := statusOfError e }
  flush
  throw .finish

end Act

end Diagnostics.Sandbox
