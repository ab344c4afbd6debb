import Diagnostics.Sandbox.Shell.Option
import Diagnostics.Sandbox.Tool.Ends
import Diagnostics.Sandbox.Tool.Names

/-!
# Changing files

Tools that make and remove files and directories, move, copy and link them, and change their permissions.
-/

namespace Diagnostics.Sandbox

namespace Work

/-- A complaint about what could not be done with a file. -/
def blameAct (act : String) (path : Octets) (e : OsError) : Work Unit :=
  blame (act.toList ++ ' ' :: quoteName path ++ ": ".toList ++ e.words.toList)

/-- Tell what has been done. -/
def tell (isTold : Bool) (act : String) (path : Octets) : Work Unit := do
  if isTold then printLine ((← get).name ++ ": ".toList ++ act.toList ++ ' ' :: quoteName path)

/-- Permissions for everything. -/
def allPermissions : Nat := 0o777

/-- Read permissions: an octal number, or clauses that change what they are. -/
def modeOf? (text : Octets) (old mask : Nat) (isDirectory : Bool) : Option Nat :=
  if !text.isEmpty && text.all isOctal then
    let n := (takeNumeral 8 0 text).1
    if n ≤ 0o7777 then some n else none
  else
    ((String.ofList text).splitOn ",").foldlM (fun mode clause => clauseMode mode clause.toList) old
where
  /-- Change permissions by one clause. -/
  clauseMode (mode : Nat) (clause : Octets) : Option Nat :=
    let who := clause.takeWhile fun c => "ugoa".toList.contains c
    let rest := clause.drop who.length
    if rest.isEmpty then none else actions who mode rest (rest.length + 1)
  /-- Change permissions by all signs of a clause. -/
  actions (who : Octets) (mode : Nat) (cs : Octets) : Nat → Option Nat
    | 0 => some mode
    | fuel + 1 =>
      match cs with
      | [] => some mode
      | op :: rest =>
        if !"+-=".toList.contains op then none
        else
          let letters := rest.takeWhile fun c => !"+-=".toList.contains c
          let left := rest.drop letters.length
          if !letters.all fun c => "rwxXstugo".toList.contains c then none
          else
            let everyone := who.isEmpty || who.contains 'a'
            let spread (bits : Nat) : Nat :=
              (if everyone || who.contains 'u' then bits * 64 else 0) ||| (if everyone || who.contains 'g' then bits * 8 else 0)
                ||| (if everyone || who.contains 'o' then bits else 0)
            let plain := letters.foldl (fun n c => n ||| (if c = 'r' then 4 else if c = 'w' then 2
              else if c = 'x' || (c = 'X' && (isDirectory || mode &&& 0o111 ≠ 0)) then 1
              else if c = 'u' then mode / 64 % 8 else if c = 'g' then mode / 8 % 8 else if c = 'o' then mode % 8 else 0)) 0
            let special := letters.foldl (fun n c => n |||
              (if c = 's' then (if everyone || who.contains 'u' then 0o4000 else 0) |||
                (if everyone || who.contains 'g' then 0o2000 else 0)
              else if c = 't' then 0o1000 else 0)) 0
            let bits := spread plain ||| special
            let bits := if who.isEmpty then bits - (bits &&& mask) else bits
            let mode :=
              if op = '+' then mode ||| bits
              else if op = '-' then mode - (mode &&& bits)
              else (mode - (mode &&& spread 7)) ||| bits
            actions who mode left fuel

/-- The mask of permissions. -/
def maskNow : Work Nat := do
  let mask : Nat ← ask (.setMask 0)
  let _ ← ask (.setMask mask)
  pure mask

/-! ## Directories -/

/-- Make a directory and those above it that are missing. -/
def makePath (isTold : Bool) (mode : Nat) : List Octets → List Octets → Work Unit
  | _, [] => pure ()
  | done, name :: rest => do
    let done := done ++ [name]
    let path := ['/'].intercalate done
    if name.isEmpty || name = ['.'] || name = ['.', '.'] then makePath isTold mode done rest
    else
      match ← ask (.makeDirectory path (if rest.isEmpty then mode else allPermissions)) with
      | .ok _ => do
        tell isTold "created directory" path
        makePath isTold mode done rest
      | .error e =>
        match ← ask (.look path true) with
        | .ok { content := .directory .., .. } => makePath isTold mode done rest
        | .ok _ =>
          blameAct "cannot create directory" path (if rest.isEmpty then .fileExists else .notADirectory)
        | .error _ => blameAct "cannot create directory" path e

/-- Make directories. -/
def mkdir (args : List Octets) : Work Nat := do
  let (settings, paths) ← readOptions
    [⟨some 'p', "parents", .nothing⟩, ⟨some 'm', "mode", .word⟩, ⟨some 'v', "verbose", .nothing⟩] args
  if paths.isEmpty then missingOperand
  let mask ← maskNow
  let mode ← match settings.last? "mode" with
    | none => pure none
    | some text =>
      match modeOf? text (allPermissions - mask) mask true with
      | some m => pure (some m)
      | none => fail ("invalid mode ".toList ++ quoteWord text)
  paths.forM fun path => do
    if settings.has "parents" then
      makePath (settings.has "verbose") allPermissions [] (Path.split (if path.isEmpty then path else
        (let t := withoutSlashes path; if t.isEmpty then path else t)))
      if path.isEmpty then blameAct "cannot create directory" path .noSuchFile
    else
      match ← ask (.makeDirectory path allPermissions) with
      | .ok _ => tell (settings.has "verbose") "created directory" path
      | .error e => blameAct "cannot create directory" path e
    match mode with
    | some m => do
      let _ ← ask (.setMode path m)
    | none => pure ()
  status

/-- Remove empty directories. -/
def rmdir (args : List Octets) : Work Nat := do
  let (settings, paths) ← readOptions
    [⟨some 'p', "parents", .nothing⟩, ⟨some 'v', "verbose", .nothing⟩,
      ⟨none, "ignore-fail-on-non-empty", .nothing⟩] args
  if paths.isEmpty then missingOperand
  let rec above : Nat → Octets → List Octets
    | 0, _ => []
    | fuel + 1, path =>
      let dir := beforeLast path
      if dir = ['.'] || dir = ['/'] then [] else dir :: above fuel dir
  let removeOne (act : String) (path : Octets) : Work Bool := do
    if settings.has "verbose" then printLine ("rmdir: removing directory, ".toList ++ quoteName path)
    match ← ask (.removeDirectory path) with
    | .ok _ => pure true
    | .error e =>
      if settings.has "ignore-fail-on-non-empty" && e = notEmpty then pure false
      else do
        blameAct act path e
        pure false
  paths.forM fun path => do
    if ← removeOne "failed to remove" path then
      if settings.has "parents" then
        let _ ← (above path.length path).foldlM (fun (goesOn : Bool) dir => do
          if goesOn then removeOne "failed to remove directory" dir else pure false) true
  status

/-- Remove a file, or a directory with all that is in it. -/
def removeTree (recursive isTold emptyToo : Bool) : Nat → Octets → Work Bool
  | 0, _ => pure false
  | fuel + 1, path => do
    match ← ask (.look path false) with
    | .error e => do
      blameAct "cannot remove" path e
      pure false
    | .ok { content := .directory .., .. } =>
      if !recursive then
        if emptyToo then
          match ← ask (.removeDirectory path) with
          | .ok _ => do
            if isTold then printLine ("removed directory ".toList ++ quoteName path)
            pure true
          | .error e => do
            blameAct "cannot remove" path e
            pure false
        else do
          blameAct "cannot remove" path .isADirectory
          pure false
      else
        let names : List Octets := match ← ask (.names path) with
          | .ok names => names
          | .error _ => []
        let went ← names.mapM fun name => removeTree recursive isTold emptyToo fuel (below path name)
        if went.all id then
          match ← ask (.removeDirectory path) with
          | .ok _ => do
            if isTold then printLine ("removed directory ".toList ++ quoteName path)
            pure true
          | .error e => do
            blameAct "cannot remove" path e
            pure false
        else pure false
    | .ok _ =>
      match ← ask (.unlink path) with
      | .ok _ => do
        if isTold then printLine ("removed ".toList ++ quoteName path)
        pure true
      | .error e => do
        blameAct "cannot remove" path e
        pure false

/-- Directories in directories go no deeper than this. -/
def treeDepth : Nat := 4096

/-- Remove files. -/
def rm (args : List Octets) : Work Nat := do
  let (settings, paths) ← readOptions
    [⟨some 'r', "recursive", .nothing⟩, ⟨some 'R', "R", .nothing⟩, ⟨some 'f', "force", .nothing⟩,
      ⟨some 'd', "dir", .nothing⟩, ⟨some 'v', "verbose", .nothing⟩, ⟨some 'i', "i", .nothing⟩,
      ⟨some 'I', "I", .nothing⟩, ⟨none, "interactive", .maybeWord⟩, ⟨none, "one-file-system", .nothing⟩,
      ⟨none, "preserve-root", .maybeWord⟩, ⟨none, "no-preserve-root", .nothing⟩] args
  let forces := settings.has "force"
  let recursive := settings.has "recursive" || settings.has "R"
  if paths.isEmpty && !forces then missingOperand
  paths.forM fun path => do
    let last := lastName path
    if recursive && (last = ['.'] || last = ['.', '.']) then
      blame ("refusing to remove '.' or '..' directory: skipping ".toList ++ quoteName path)
    else if recursive && last = ['/'] then
      blame "it is dangerous to operate recursively on '/'".toList
      complain "use --no-preserve-root to override this failsafe".toList
    else
      let isGone : Bool := match ← ask (.look path false) with
        | .error e => e == .noSuchFile || e == .notADirectory
        | .ok _ => false
      unless isGone && forces do
        let _ ← removeTree recursive (settings.has "verbose") (settings.has "dir") treeDepth path
  status

/-- Remove one name. -/
def unlink (args : List Octets) : Work Nat := do
  let (_, paths) ← readOptions [] args
  match paths with
  | [] => missingOperand
  | _ :: extra :: _ => extraOperand extra
  | [path] => do
    match ← ask (.unlink path) with
    | .ok _ => pure ()
    | .error e => blameAct "cannot unlink" path e
    status

/-! ## Files and times -/

/-- Make files that are not there, and change the times of those that are. -/
def touch (args : List Octets) : Work Nat := do
  let (settings, paths) ← readOptions
    [⟨some 'a', "a", .nothing⟩, ⟨some 'c', "no-create", .nothing⟩, ⟨some 'd', "date", .word⟩,
      ⟨some 'f', "f", .nothing⟩, ⟨some 'h', "no-dereference", .nothing⟩, ⟨some 'm', "m", .nothing⟩,
      ⟨some 'r', "reference", .word⟩, ⟨some 't', "t", .word⟩, ⟨none, "time", .word⟩] args
  if paths.isEmpty then misuse "missing file operand".toList
  let now : Nat ← ask .clock
  paths.forM fun path => do
    let exists? : Bool := match ← ask (.look path true) with
      | .ok _ => true
      | .error _ => false
    if exists? then
      let _ ← ask (.setTime path now)
    else unless settings.has "no-create" do
      match ← ask (.openFile path { writes := true, creates := true } 0o666) with
      | .ok n => do
        let _ ← ask (.close n)
      | .error e => blameAct "cannot touch" path e
  status

/-- Set the sizes of files. -/
def truncate (args : List Octets) : Work Nat := do
  let (settings, paths) ← readOptions
    [⟨some 'c', "no-create", .nothing⟩, ⟨some 's', "size", .word⟩, ⟨some 'r', "reference", .word⟩] args
  let text ← match settings.last? "size" with
    | some text => pure text
    | none => misuse "you must specify either '--size' or '--reference'".toList
  if paths.isEmpty then misuse "missing file operand".toList
  let (sign, digits) := match text with
    | c :: rest => if "+-<>/%".toList.contains c then (some c, rest) else (none, text)
    | [] => (none, text)
  let amount ← match countOf? digits with
    | some n => pure n
    | none => fail ("Invalid number: ".toList ++ quoteWord text)
  paths.forM fun path => do
    match ← ask (.openFile path { writes := true, creates := !settings.has "no-create" } 0o666) with
    | .error e => blame ("cannot open ".toList ++ quoteName path ++ " for writing: ".toList ++ e.words.toList)
    | .ok n => do
      let old : Nat := match ← ask (.lookDescriptor n) with
        | .ok facts => facts.size
        | .error _ => 0
      let size := match sign with
        | some '+' => old + amount
        | some '-' => old - amount
        | some '<' => min old amount
        | some '>' => max old amount
        | _ => amount
      let _ ← ask (.resizeDescriptor n size)
      let _ ← ask (.close n)
  status

/-- Make named pipes. -/
def mkfifo (args : List Octets) : Work Nat := do
  let (settings, paths) ← readOptions [⟨some 'm', "mode", .word⟩] args
  if paths.isEmpty then missingOperand
  let mode := ((settings.last? "mode").bind fun text => modeOf? text 0o666 0 false).getD 0o666
  paths.forM fun path => do
    match ← ask (.makeFifo path mode) with
    | .ok _ => pure ()
    | .error e => blame ("cannot create fifo ".toList ++ quoteName path ++ ": ".toList ++ e.words.toList)
  status

/-! ## Permissions -/

/-- Change permissions, also of all that is in a directory. -/
def changeModes (text : Octets) (mask : Nat) (recursive : Bool) : Nat → Octets → Work Unit
  | 0, _ => pure ()
  | fuel + 1, path => do
    match ← ask (.look path true) with
    | .error e =>
      match ← ask (.look path false) with
      | .ok _ => blame ("cannot operate on dangling symlink ".toList ++ quoteName path)
      | .error _ => blameAct "cannot access" path e
    | .ok facts => do
      let isDirectory := match facts.content with
        | .directory .. => true
        | _ => false
      let _ ← ask (.setMode path ((modeOf? text facts.mode mask isDirectory).getD facts.mode))
      if recursive && isDirectory then
        match ← ask (.names path) with
        | .ok names => names.forM fun name => changeModes text mask recursive fuel (below path name)
        | .error _ => pure ()

/-- The word is a mode that begins with a hyphen. -/
def isModeWord : Octets → Bool
  | '-' :: c :: _ => "rwxXstugo01234567".toList.contains c
  | _ => false

/-- Change permissions. -/
def chmod (args : List Octets) : Work Nat := do
  let modes := args.filter isModeWord
  let (settings, words) ← readOptions
    [⟨some 'c', "changes", .nothing⟩, ⟨some 'f', "silent", .nothing⟩, ⟨none, "quiet", .nothing⟩,
      ⟨some 'v', "verbose", .nothing⟩, ⟨some 'R', "recursive", .nothing⟩, ⟨none, "reference", .word⟩]
    (args.filter (!isModeWord ·))
  let words := modes.take 1 ++ words
  match words with
  | [] => missingOperand
  | [mode] => missingAfter mode
  | mode :: paths => do
    let mask ← maskNow
    if (modeOf? mode 0 mask false).isNone then misuse ("invalid mode: ".toList ++ quoteWord mode)
    paths.forM (changeModes mode mask (settings.has "recursive") treeDepth)
    status

/-! ## Moving, copying and linking -/

/-- The path is a directory. -/
def isDirectoryPath (path : Octets) : Work Bool := do
  match ← ask (.look path true) with
  | .ok { content := .directory .., .. } => pure true
  | _ => pure false

/-- The sources and, for each, where it goes: into a directory, or to the last path. -/
def targets (settings : Settings) (paths : List Octets) : Work (List (Octets × Octets)) := do
  match settings.last? "target-directory" with
  | some dir => do
    if paths.isEmpty then misuse "missing file operand".toList
    unless ← isDirectoryPath dir do
      let e : OsError := match ← ask (.look dir true) with
        | .ok _ => .notADirectory
        | .error e => e
      fail ("target directory ".toList ++ quoteName dir ++ ": ".toList ++ e.words.toList)
    pure (paths.map fun path => (path, below dir (lastName path)))
  | none =>
    match paths with
    | [] => misuse "missing file operand".toList
    | [path] => misuse ("missing destination file operand after ".toList ++ quoteName path)
    | _ => do
      let target := paths.getLast?.getD []
      let sources := paths.dropLast
      if settings.has "no-target-directory" then
        match sources with
        | [source] => pure [(source, target)]
        | _ => misuse ("extra operand ".toList ++ quoteName (paths.getD 2 []))
      else if ← isDirectoryPath target then
        pure (sources.map fun path => (path, below target (lastName path)))
      else
        match sources with
        | [source] => pure [(source, target)]
        | _ => do
          let e : OsError := match ← ask (.look target true) with
            | .ok _ => .notADirectory
            | .error e => e
          fail ("target ".toList ++ quoteName target ++ ": ".toList ++ e.words.toList)

/-- Options of the tools that put files somewhere. -/
def targetRules : List OptionRule :=
  [⟨some 'f', "force", .nothing⟩, ⟨some 'i', "interactive", .nothing⟩, ⟨some 'n', "no-clobber", .nothing⟩,
    ⟨some 'v', "verbose", .nothing⟩, ⟨some 't', "target-directory", .word⟩,
    ⟨some 'T', "no-target-directory", .nothing⟩, ⟨some 'u', "update", .maybeWord⟩, ⟨some 'b', "b", .nothing⟩,
    ⟨none, "backup", .maybeWord⟩, ⟨some 'S', "suffix", .word⟩]

/-- From one path to another, in words. -/
def arrow (source target : Octets) : Octets := quoteName source ++ " -> ".toList ++ quoteName target

/-- Move files. -/
def mv (args : List Octets) : Work Nat := do
  let (settings, paths) ← readOptions (targetRules ++ [⟨none, "strip-trailing-slashes", .nothing⟩]) args
  let pairs ← targets settings paths
  pairs.forM fun (source, target) => do
    match ← ask (.look source false) with
    | .error e => blameAct "cannot stat" source e
    | .ok facts => do
      let there : Except OsError FileFacts ← ask (.look target false)
      let isDirectory (f : FileFacts) : Bool :=
        match f.content with
        | .directory .. => true
        | _ => false
      match there with
      | .ok old =>
        if settings.has "no-clobber" then pure ()
        else if old.id = facts.id then
          blame (quoteName source ++ " and ".toList ++ quoteName target ++ " are the same file".toList)
        else if isDirectory facts && !isDirectory old then
          blame ("cannot overwrite non-directory ".toList ++ quoteName target ++ " with directory ".toList ++
            quoteName source)
        else if !isDirectory facts && isDirectory old then
          blame ("cannot overwrite directory ".toList ++ quoteName target ++ " with non-directory".toList)
        else moveOne settings source target
      | .error _ => moveOne settings source target
  status
where
  /-- Move a file. -/
  moveOne (settings : Settings) (source target : Octets) : Work Unit := do
    match ← ask (.move source target) with
    | .ok _ => if settings.has "verbose" then printLine ("renamed ".toList ++ arrow source target)
    | .error e =>
      if e = invalidArgument then
        blame ("cannot move ".toList ++ quoteName source ++ " to a subdirectory of itself, ".toList ++ quoteName target)
      else if e = notEmpty then blame ("cannot overwrite ".toList ++ quoteName target ++ ": ".toList ++ e.words.toList)
      else blame ("cannot move ".toList ++ quoteName source ++ " to ".toList ++ quoteName target ++ ": ".toList ++
        e.words.toList)

/-- Copy the content of a file. -/
def copyContent (isTold : Bool) (source target : Octets) (mode : Nat) : Work Unit := do
  match ← ask (.openFile source { reads := true } 0) with
  | .error e => blame ("cannot open ".toList ++ quoteName source ++ " for reading: ".toList ++ e.words.toList)
  | .ok from_ => do
    match ← ask (.openFile target { writes := true, creates := true, empties := true } mode) with
    | .error e => do
      let e := if e = .isADirectory && target.getLast? = some '/' then .notADirectory else e
      blame ("cannot create regular file ".toList ++ quoteName target ++ ": ".toList ++ e.words.toList)
    | .ok sink => do
      if isTold then printLine (arrow source target)
      match ← Task.readAll from_ with
      | .error e => blame ("error reading ".toList ++ quoteName source ++ ": ".toList ++ e.words.toList)
      | .ok content =>
        match ← Task.writeAll sink content with
        | some e => blame ("error writing ".toList ++ quoteName target ++ ": ".toList ++ e.words.toList)
        | none => pure ()
      let _ ← ask (.close sink)
    let _ ← ask (.close from_)

/-- How files are copied. -/
structure CopyManner where
  recursive : Bool
  keeps : Bool
  follows : Bool
  forces : Bool
  leaves : Bool
  isTold : Bool

/-- Copy a file, or a directory with all that is in it. -/
def copyTree (m : CopyManner) : Nat → Octets → Octets → Work Unit
  | 0, _, _ => pure ()
  | fuel + 1, source, target => do
    match ← ask (.look source m.follows) with
    | .error e => blameAct "cannot stat" source e
    | .ok facts => do
      let there : Except OsError FileFacts ← ask (.look target true)
      let isSame := match there with
        | .ok old => old.id == facts.id
        | .error _ => false
      match facts.content with
      | .directory .. =>
        if !m.recursive then blame ("-r not specified; omitting directory ".toList ++ quoteName source)
        else
          let made : Bool ← match there with
            | .ok { content := .directory .., .. } => pure true
            | .ok _ => do
              blame ("cannot overwrite non-directory ".toList ++ quoteName target ++ " with directory ".toList ++
                quoteName source)
              pure false
            | .error _ => do
              match ← ask (.makeDirectory target facts.mode) with
              | .ok _ => do
                if m.isTold then printLine (arrow source target)
                pure true
              | .error e => do
                blameAct "cannot create directory" target e
                pure false
          if made then
            match ← ask (.names source) with
            | .ok names =>
              names.forM fun name => copyTree { m with follows := false } fuel (below source name) (below target name)
            | .error _ => pure ()
      | .link road => do
        if m.forces then let _ ← ask (.unlink target)
        match ← ask (.symbolicLink road target) with
        | .ok _ => if m.isTold then printLine (arrow source target)
        | .error e => blameAct "cannot create symbolic link" target e
      | _ =>
        if isSame then
          blame (quoteName source ++ " and ".toList ++ quoteName target ++ " are the same file".toList)
        else
          match there with
          | .ok { content := .directory .., .. } =>
            blame ("cannot overwrite directory ".toList ++ quoteName target ++ " with non-directory ".toList ++
              quoteName source)
          | .ok _ => unless m.leaves do copyContent m.isTold source target (facts.mode &&& 0o777)
          | .error _ => do
            match ← ask (.look target false) with
            | .ok _ => blame ("not writing through dangling symlink ".toList ++ quoteName target)
            | .error _ => copyContent m.isTold source target (facts.mode &&& 0o777)
          if m.keeps then
            let _ ← ask (.setMode target facts.mode)
            let _ ← ask (.setTime target facts.changed)

/-- Copy files. -/
def cp (args : List Octets) : Work Nat := do
  let (settings, paths) ← readOptions
    (targetRules ++ [⟨some 'r', "recursive", .nothing⟩, ⟨some 'R', "R", .nothing⟩, ⟨some 'a', "archive", .nothing⟩,
      ⟨some 'p', "p", .nothing⟩, ⟨none, "preserve", .maybeWord⟩, ⟨some 'd', "d", .nothing⟩,
      ⟨some 'L', "dereference", .nothing⟩, ⟨some 'P', "no-dereference", .nothing⟩, ⟨some 'H', "H", .nothing⟩,
      ⟨some 'l', "link", .nothing⟩, ⟨some 's', "symbolic-link", .nothing⟩, ⟨none, "parents", .nothing⟩,
      ⟨none, "reflink", .maybeWord⟩, ⟨some 'x', "one-file-system", .nothing⟩]) args
  let pairs ← targets settings paths
  let any (names : List String) : Bool := names.any settings.has
  let recursive := any ["recursive", "R", "archive"]
  let follows := match settings.lastOf ["dereference", "no-dereference", "H", "d", "archive"] with
    | some "dereference" => true
    | some "H" => true
    | some _ => false
    | none => !recursive
  let m : CopyManner :=
    { recursive, keeps := any ["archive", "p", "preserve"], follows, forces := settings.has "force"
      leaves := settings.has "no-clobber", isTold := settings.has "verbose" }
  pairs.forM fun (source, target) => do
    let source := if recursive && source.length ≠ 1 then (let t := withoutSlashes source; if t.isEmpty then source else t)
      else source
    if settings.has "link" then
      match ← ask (.link source target) with
      | .ok _ => pure ()
      | .error e => blame ("cannot create hard link ".toList ++ quoteName target ++ " to ".toList ++ quoteName source ++
          ": ".toList ++ e.words.toList)
    else if settings.has "symbolic-link" then
      match ← ask (.symbolicLink source target) with
      | .ok _ => pure ()
      | .error e => blame ("cannot create symbolic link ".toList ++ quoteName target ++ " to ".toList ++
          quoteName source ++ ": ".toList ++ e.words.toList)
    else
      let isInside ← match ← ask (.look source false) with
        | .ok { content := .directory .., .. } => do
          let a := (← realPathOf 0 source).toOption
          let b := (← realPathOf 1 target).toOption
          pure (match a, b with
            | some a, some b => recursive && (a ++ ['/']).isPrefixOf b
            | _, _ => false)
        | _ => pure false
      if isInside then
        copyTree { m with recursive := true } 2 source target
        blame ("cannot copy a directory, ".toList ++ quoteName source ++ ", into itself, ".toList ++ quoteName target)
      else copyTree m treeDepth source target
  status

/-- Link files. -/
def ln (args : List Octets) : Work Nat := do
  let (settings, paths) ← readOptions
    (targetRules ++ [⟨some 's', "symbolic", .nothing⟩, ⟨none, "no-dereference", .nothing⟩,
      ⟨some 'r', "relative", .nothing⟩, ⟨some 'L', "logical", .nothing⟩, ⟨some 'P', "physical", .nothing⟩,
      ⟨some 'd', "directory", .nothing⟩, ⟨some 'F', "F", .nothing⟩]) args
  let isSymbolic := settings.has "symbolic"
  let last := paths.getLast?.getD []
  let staysLink := settings.has "no-clobber" || settings.has "no-dereference"
  let isLink : Bool := match ← ask (.look last false) with
    | .ok { content := .link _, .. } => true
    | _ => false
  let pairs ← match paths, settings.has "target-directory" with
    | [path], false => pure [(path, lastName path)]
    | [a, b], false => if staysLink && isLink then pure [(a, b)] else targets settings [a, b]
    | paths, _ => targets settings paths
  pairs.forM fun (source, target) => do
    let facts : Except OsError FileFacts ← ask (.look source (settings.has "logical"))
    let isDirectory := match facts with
      | .ok { content := .directory .., .. } => true
      | _ => false
    match isSymbolic, facts with
    | false, .error e => blameAct "failed to access" source e
    | _, _ =>
      if !isSymbolic && isDirectory then blame (quoteName source ++ ": hard link not allowed for directory".toList)
      else
        let there : Except OsError FileFacts ← ask (.look target false)
        let isSame := match there, facts with
          | .ok a, .ok b => !isSymbolic && a.id == b.id
          | _, _ => false
        if settings.has "force" && isSame then
          blame (quoteName source ++ " and ".toList ++ quoteName target ++ " are the same file".toList)
        else
          if settings.has "force" then
            match there with
            | .ok { content := .directory .., .. } => pure ()
            | .ok _ => do
              let _ ← ask (.unlink target)
            | .error _ => pure ()
          let made : Except OsError Unit ←
            if isSymbolic then ask (.symbolicLink source target) else ask (.link source target)
          match made with
          | .ok _ => if settings.has "verbose" then
              printLine (quoteName target ++ (if isSymbolic then " -> " else " => ").toList ++ quoteName source)
          | .error e =>
            match there with
            | .ok { content := .directory .., .. } =>
              if settings.has "force" then blame (quoteName target ++ ": cannot overwrite directory".toList)
              else sayFailure isSymbolic source target e
            | _ => sayFailure isSymbolic source target e
  status
where
  /-- A link could not be made. -/
  sayFailure (isSymbolic : Bool) (source target : Octets) (e : OsError) : Work Unit :=
    if isSymbolic then blameAct "failed to create symbolic link" target e
    else blame ("failed to create hard link ".toList ++ quoteName target ++
      (if e = .fileExists || e = .noSuchFile && target.isEmpty then [] else " => ".toList ++ quoteName source) ++
      ": ".toList ++ e.words.toList)

end Work

end Diagnostics.Sandbox
