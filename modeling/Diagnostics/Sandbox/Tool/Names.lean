import Diagnostics.Path
import Diagnostics.Sandbox.Tool.Basic

/-!
# Names and paths

Tools that take the last name of a path, or what comes before it, and that say where a path leads.
-/

namespace Diagnostics.Sandbox

/-- A path without slashes at its end. -/
def withoutSlashes (path : Octets) : Octets := (path.reverse.dropWhile (· == '/')).reverse

/-- The last name of a path. -/
def lastName (path : Octets) : Octets :=
  let trimmed := withoutSlashes path
  if trimmed.isEmpty then (if path.isEmpty then [] else ['/'])
  else (trimmed.reverse.takeWhile (· != '/')).reverse

/-- What comes before the last name of a path. -/
def beforeLast (path : Octets) : Octets :=
  let trimmed := withoutSlashes path
  if trimmed.isEmpty then (if path.isEmpty then ['.'] else ['/'])
  else
    let before := trimmed.reverse.dropWhile (· != '/')
    if before.isEmpty then ['.']
    else
      let dir := withoutSlashes before.reverse
      if dir.isEmpty then ['/'] else dir

/-- A name below a directory. -/
def below (dir name : Octets) : Octets :=
  if dir.getLast? = some '/' then dir ++ name else dir ++ '/' :: name

namespace Work

/-- Print the last names of paths, perhaps without an ending. -/
def basename (args : List Octets) : Work Nat := do
  let (settings, paths) ← readLeadingOptions
    [⟨some 'a', "multiple", .nothing⟩, ⟨some 's', "suffix", .word⟩, ⟨some 'z', "zero", .nothing⟩] args
  let ending := if settings.has "zero" then '\x00' else '\n'
  let without (suffix name : Octets) : Octets :=
    if !suffix.isEmpty && suffix.isSuffixOf name && suffix.length < name.length then
      name.take (name.length - suffix.length)
    else name
  match paths with
  | [] => missingOperand
  | first :: rest =>
    if settings.has "multiple" || settings.has "suffix" then
      paths.forM fun path => print (without ((settings.last? "suffix").getD []) (lastName path) ++ [ending])
    else
      match rest with
      | _ :: extra :: _ => extraOperand extra
      | rest => print (without (rest.headD []) (lastName first) ++ [ending])
    status

/-- Print what comes before the last names of paths. -/
def dirname (args : List Octets) : Work Nat := do
  let (settings, paths) ← readLeadingOptions [⟨some 'z', "zero", .nothing⟩] args
  if paths.isEmpty then missingOperand
  paths.forM fun path => print (beforeLast path ++ [if settings.has "zero" then '\x00' else '\n'])
  status

/-- The path of the present directory. -/
def here : Work Octets := do
  match ← ask .whereAmI with
  | .ok path => pure path
  | .error e => fail ("cannot find current directory: ".toList ++ e.words.toList)

/-- Print the path of the present directory. -/
def pwd (args : List Octets) : Work Nat := do
  let (settings, words) ← readOptions [⟨some 'L', "logical", .nothing⟩, ⟨some 'P', "physical", .nothing⟩] args
  unless words.isEmpty do complain "ignoring non-option arguments".toList
  let path ← here
  let known := ((← get).environment.lookup "PWD".toList).getD []
  let logical ← if settings.lastOf ["logical", "physical"] = some "logical" && known.head? = some '/' then do
      match ← ask (.look known true), ← ask (.look ['.'] true) with
      | .ok a, .ok b => pure (a.id == b.id)
      | _, _ => pure false
    else pure false
  printLine (if logical then known else path)
  status

/-- Follow all links of a path; names at its end may be missing, as many as are permitted. -/
def resolve (missing : Nat) : Nat → Octets → List Octets → Work (Except OsError Octets)
  | 0, _, _ => pure (.error tooManyLinks)
  | _, found, [] => pure (.ok (if found.isEmpty then ['/'] else found))
  | fuel + 1, found, name :: rest => do
    if name.isEmpty || name = ['.'] then resolve missing fuel found rest
    else if name = ['.', '.'] then
      resolve missing fuel ((withoutSlashes (found.reverse.dropWhile (· != '/')).reverse)) rest
    else
      let path := found ++ '/' :: name
      match ← ask (.look path false) with
      | .ok facts =>
        match facts.content with
        | .link target =>
          resolve missing fuel (if target.head? = some '/' then [] else found) (Path.split target ++ rest)
        | .directory .. => resolve missing fuel path rest
        | _ => if rest.isEmpty then pure (.ok path) else pure (.error .notADirectory)
      | .error e =>
        if (rest.filter (!·.isEmpty)).length < missing then
          pure (.ok ((path :: rest.filter (!·.isEmpty)).foldl (fun a b => if a.isEmpty then b else a ++ '/' :: b) []))
        else pure (.error e)

/-- A bound for the names of a path with its links. -/
def resolveLimit : Nat := 5000

/-- The path from the root, all links followed. -/
def realPathOf (missing : Nat) (path : Octets) : Work (Except OsError Octets) := do
  if path.isEmpty then pure (.error .noSuchFile)
  else
    let start ← if path.head? = some '/' then pure [] else here
    resolve missing resolveLimit (if start = ['/'] then [] else start) (Path.split path)

/-- Print paths from the root. -/
def realpath (args : List Octets) : Work Nat := do
  let (settings, paths) ← readOptions
    [⟨some 'e', "canonicalize-existing", .nothing⟩, ⟨some 'm', "canonicalize-missing", .nothing⟩,
      ⟨some 'q', "quiet", .nothing⟩, ⟨some 's', "no-symlinks", .nothing⟩, ⟨some 'z', "zero", .nothing⟩,
      ⟨some 'L', "logical", .nothing⟩, ⟨some 'P', "physical", .nothing⟩] args
  if paths.isEmpty then missingOperand
  let missing := if settings.has "canonicalize-missing" then resolveLimit
    else if settings.has "canonicalize-existing" then 0 else 1
  paths.forM fun path => do
    match ← realPathOf missing path with
    | .ok real => print (real ++ [if settings.has "zero" then '\x00' else '\n'])
    | .error e =>
      if settings.has "quiet" then modify fun t => { t with status := 1 } else blameFile path e
  status

/-- Print where links lead. -/
def readlink (args : List Octets) : Work Nat := do
  let (settings, paths) ← readOptions
    [⟨some 'f', "canonicalize", .nothing⟩, ⟨some 'e', "canonicalize-existing", .nothing⟩,
      ⟨some 'm', "canonicalize-missing", .nothing⟩, ⟨some 'n', "no-newline", .nothing⟩, ⟨some 'q', "quiet", .nothing⟩,
      ⟨some 's', "silent", .nothing⟩, ⟨some 'v', "verbose", .nothing⟩, ⟨some 'z', "zero", .nothing⟩] args
  if paths.isEmpty then missingOperand
  let ending : Octets := if settings.has "no-newline" && paths.length = 1 then [] else
    if settings.has "zero" then ['\x00'] else ['\n']
  paths.forM fun path => do
    let found ← match settings.lastOf ["canonicalize", "canonicalize-existing", "canonicalize-missing"] with
      | some "canonicalize" => realPathOf 1 path
      | some "canonicalize-existing" => realPathOf 0 path
      | some _ => realPathOf resolveLimit path
      | none => ask (.readLink path)
    match found with
    | .ok target => print (target ++ ending)
    | .error e =>
      if settings.has "verbose" then blameFile path e else modify fun t => { t with status := 1 }
  status

end Work

end Diagnostics.Sandbox
