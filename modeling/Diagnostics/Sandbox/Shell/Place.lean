import Diagnostics.Path
import Diagnostics.Sandbox.Shell.Option

/-!
# Directories

The shell knows the path by which it came to its directory: going up from there leads back along that path, whatever
links are on it.
-/

namespace Diagnostics.Sandbox

namespace Act

/-- The segments of a path with points worked in, last first. -/
def followSegments (up : List Octets) (segments : List Octets) : List Octets :=
  segments.foldl (fun up s =>
    if s.isEmpty || s = ['.'] then up else if s = ['.', '.'] then up.drop 1 else s :: up) up

/-- The path of a directory seen from another one. -/
def pathFrom (here path : Octets) : Octets :=
  let isTwice (cs : Octets) : Bool := cs.take 2 = ['/', '/'] && (cs.drop 2).head? ≠ some '/'
  let whole := if path.head? = some '/' then path else here
  let up := if path.head? = some '/' then [] else followSegments [] (Path.split here)
  let segments := (followSegments up (Path.split path)).reverse
  let body := ['/'].intercalate segments
  if isTwice whole then '/' :: '/' :: body else '/' :: body

/-- The path of the present directory as the system knows it. -/
def systemPath : Act Octets := do
  match ← ask .whereAmI with
  | .ok path => pure path
  | .error _ => pure []

/-- Go to a directory; the flag tells that its path is asked of the system. -/
def enter (path : Octets) (isPhysical : Bool) : Act Bool := do
  let s ← get
  let target := if isPhysical then path else pathFrom s.here path
  match ← ask (.changeDirectory target) with
  | .error _ => pure false
  | .ok _ => do
    let here ← if isPhysical then systemPath else pure target
    let old := s.here
    modify fun s => { s with here }
    assign "OLDPWD".toList old true
    assign "PWD".toList here true
    pure true

/-- The directories of a path of directories; none stands for the present one. -/
def pathEntries (cs : Octets) (name : Octets) : List Octets :=
  let rec cut : Octets → Octets → List Octets
    | seen, [] => [seen.reverse]
    | seen, c :: rest => if c = ':' then seen.reverse :: cut [] rest else cut (c :: seen) rest
  (cut [] cs).map fun dir => if dir.isEmpty then name else dir ++ '/' :: name

/-- A directory is there. -/
def isDirectory (path : Octets) : Act Bool := do
  match ← ask (.look path true) with
  | .ok { content := .directory .., .. } => pure true
  | _ => pure false

/-- The path begins at the root, or with one point or two. -/
def isRooted (path : Octets) : Bool :=
  match Path.split path with
  | s :: _ => path.head? = some '/' || s = ['.'] || s = ['.', '.']
  | [] => false

/-- Go to another directory. -/
def cdCommand (args : List Octets) : Act Nat := do
  let (options, args) ← takeOptions "LP" args
  let isPhysical := options.getLast?.any fun o => o.1 == 'P'
  let s ← get
  let goesBack := args.head? = some ['-']
  let dest := match args with
    | [] => (s.value? "HOME".toList).getD []
    | arg :: _ => if goesBack then (s.value? "OLDPWD".toList).getD [] else arg
  let bare := if dest.isEmpty then ['.'] else dest
  let roads ←
    match s.value? "CDPATH".toList with
    | some roads =>
      if isRooted dest then pure none
      else (pathEntries roads bare).findM? isDirectory
    | none => pure none
  let target := roads.getD (if dest.isEmpty && !isRooted dest then ['.'] else dest)
  let shows := goesBack || roads.any (· ≠ bare)
  if ← enter target isPhysical then
    if shows then print ((← get).here ++ ['\n'])
    pure 0
  else failWith ("can't cd to ".toList ++ dest)

/-- Print the path of the present directory. -/
def pwdCommand (args : List Octets) : Act Nat := do
  let (options, _) ← takeOptions "LP" args
  let isPhysical := options.getLast?.any fun o => o.1 == 'P'
  let path ← if isPhysical then systemPath else do pure (← get).here
  print (path ++ ['\n'])
  pure 0

end Act

end Diagnostics.Sandbox
