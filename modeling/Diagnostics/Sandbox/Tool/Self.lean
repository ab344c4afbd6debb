import Diagnostics.Sandbox.FileTest
import Diagnostics.Sandbox.Tool.Names
import Diagnostics.Sandbox.Tool.Wait

/-!
# Who and where

Tools that say who uses the system, what kind of system it is, and where programs are. Everything is done in the name of
the user with number zero.
-/

namespace Diagnostics.Sandbox

/-- Someone who may use the system. -/
structure UserEntry where
  name : Octets
  number : Nat
  group : Nat

namespace Work

/-! ## Users -/

/-- The lines of a file with fields between colons. -/
def entriesOf (path : String) : Work (List (List Octets)) := do
  match ← contentOf path.toList with
  | .ok cs => pure ((linesOf cs).map fun l => ((String.ofList (bare l)).splitOn ":").map String.toList)
  | .error _ => pure []

/-- Who may use the system. -/
def userEntries : Work (List UserEntry) := do
  return (← entriesOf "/etc/passwd").filterMap fun fields =>
    match fields with
    | name :: _ :: number :: group :: _ =>
      some { name, number := (takeNumeral 10 0 number).1, group := (takeNumeral 10 0 group).1 }
    | _ => none

/-- The name of a group, or its number if it has none. -/
def groupName (n : Nat) : Work Octets := do
  let found := (← entriesOf "/etc/group").findSome? fun fields =>
    match fields with
    | name :: _ :: number :: _ => if (takeNumeral 10 0 number).1 = n then some name else none
    | _ => none
  pure (found.getD (toString n).toList)

/-- The user with a name or a number. -/
def userNamed (word : Octets) : Work (Option UserEntry) := do
  let users ← userEntries
  let byNumber (u : UserEntry) : Bool := !word.isEmpty && word.all Char.isDigit && u.number == (takeNumeral 10 0 word).1
  pure ((users.find? (·.name = word)).or (users.find? byNumber))

/-- Say who a user is. -/
def whoIs (args : List Octets) : Work Nat := do
  let (settings, words) ← readOptions
    [⟨some 'a', "a", .nothing⟩, ⟨some 'Z', "context", .nothing⟩, ⟨some 'g', "group", .nothing⟩,
      ⟨some 'G', "groups", .nothing⟩, ⟨some 'n', "name", .nothing⟩, ⟨some 'r', "real", .nothing⟩,
      ⟨some 'u', "user", .nothing⟩, ⟨some 'z', "zero", .nothing⟩] args
  let choices := ["user", "group", "groups"].filter settings.has
  if 1 < choices.length then fail "cannot print \"only\" of more than one choice".toList
  if choices.isEmpty && (settings.has "name" || settings.has "real") then
    fail "cannot print only names or real IDs in default format".toList
  if choices.isEmpty && settings.has "zero" then fail "option --zero not permitted in default format".toList
  let ending := if settings.has "zero" then '\x00' else '\n'
  let named (n : Nat) (name : Octets) : Octets :=
    if settings.has "name" then name else (toString n).toList
  let show_ (u : UserEntry) : Work Unit := do
    let group ← groupName u.group
    match choices with
    | ["user"] => print (named u.number u.name ++ [ending])
    | _ :: _ => print (named u.group group ++ [ending])
    | [] =>
      let both (n : Nat) (name : Octets) : Octets := (toString n).toList ++ '(' :: name ++ [')']
      printLine ("uid=".toList ++ both u.number u.name ++ " gid=".toList ++ both u.group group ++
        " groups=".toList ++ both u.group group)
  if words.isEmpty then show_ { name := "root".toList, number := 0, group := 0 }
  else
    words.forM fun word => do
      match ← userNamed word with
      | some u => show_ u
      | none => blame (quoteWord word ++ ": no such user".toList)
  status

/-- Say which groups users belong to. -/
def groupsOf (args : List Octets) : Work Nat := do
  let (_, words) ← readOptions [] args
  if words.isEmpty then printLine (← groupName 0)
  else
    words.forM fun word => do
      match ← userNamed word with
      | some u => printLine (word ++ " : ".toList ++ (← groupName u.group))
      | none => blame (quoteWord word ++ ": no such user".toList)
  status

/-- Read options of a tool that takes no words. -/
def readOnlyOptions (rules : List OptionRule) (args : List Octets) : Work Settings := do
  let (settings, words) ← readOptions rules args
  match words with
  | word :: _ => extraOperand word
  | [] => pure settings

/-- Say the name of the user. -/
def whoami (args : List Octets) : Work Nat := do
  let _ ← readOnlyOptions [] args
  printLine "root".toList
  pure 0

/-- Nobody has logged in. -/
def logname (args : List Octets) : Work Nat := do
  let _ ← readOnlyOptions [] args
  fail "no login name".toList

/-- Say who has logged in: nobody has. -/
def whoIsHere (args : List Octets) : Work Nat := do
  let _ ← readOptions [] args
  pure 0

/-! ## The system -/

/-- Say the name of the terminal: there is none. -/
def tty (args : List Octets) : Work Nat := do
  let settings ← readOnlyOptions [⟨some 's', "silent", .nothing⟩, ⟨none, "quiet", .nothing⟩] args
  unless settings.has "silent" || settings.has "quiet" do printLine "not a tty".toList
  pure 1

/-- The name of the computer. -/
def computerName : Work Octets := do
  match ← contentOf "/etc/hostname".toList with
  | .ok cs => pure (cs.takeWhile (· != '\n'))
  | .error _ => pure "localhost".toList

/-- Say what kind of system it is. -/
def uname (args : List Octets) : Work Nat := do
  let settings ← readOnlyOptions
    [⟨some 'a', "all", .nothing⟩, ⟨some 's', "kernel-name", .nothing⟩, ⟨some 'n', "nodename", .nothing⟩,
      ⟨some 'r', "kernel-release", .nothing⟩, ⟨some 'v', "kernel-version", .nothing⟩, ⟨some 'm', "machine", .nothing⟩,
      ⟨some 'p', "processor", .nothing⟩, ⟨some 'i', "hardware-platform", .nothing⟩,
      ⟨some 'o', "operating-system", .nothing⟩] args
  let name ← computerName
  let facts : List (String × Octets) :=
    [("kernel-name", "Linux".toList), ("nodename", name), ("kernel-release", "6.1.0".toList),
      ("kernel-version", "#1 SMP".toList), ("machine", "x86_64".toList), ("processor", "unknown".toList),
      ("hardware-platform", "unknown".toList), ("operating-system", "GNU/Linux".toList)]
  let wanted := facts.filter fun (option, text) =>
    if settings.has "all" then text ≠ "unknown".toList
    else if settings.isEmpty then option = "kernel-name"
    else settings.has option
  printLine ([' '].intercalate (wanted.map (·.2)))
  pure 0

/-- Say what kind of computer it is. -/
def arch (args : List Octets) : Work Nat := do
  let _ ← readOnlyOptions [] args
  printLine "x86_64".toList
  pure 0

/-- Say how many processors there are. -/
def nproc (args : List Octets) : Work Nat := do
  let _ ← readOnlyOptions [⟨none, "all", .nothing⟩, ⟨none, "ignore", .word⟩] args
  printLine ['1']
  pure 0

/-- Say the name of the computer. -/
def hostname (args : List Octets) : Work Nat := do
  let _ ← readOptions
    [⟨some 's', "short", .nothing⟩, ⟨some 'f', "fqdn", .nothing⟩, ⟨some 'i', "ip-address", .nothing⟩] args
  printLine (← computerName)
  pure 0

/-! ## Programs -/

/-- A program could be run. -/
def canRun (path : Octets) : Work Bool := do
  match ← ask (.look path true) with
  | .ok facts => pure (FileTest.plain.holds facts && FileTest.runs.holds facts)
  | .error _ => pure false

/-- Say where programs are. -/
def which (args : List Octets) : Work Nat := do
  let letters := (args.takeWhile fun a => a.head? = some '-' && a ≠ ['-'] && a ≠ ['-', '-']).flatMap (·.drop 1)
  let words := args.dropWhile fun a => a.head? = some '-' && a ≠ ['-'] && a ≠ ['-', '-']
  let words := if words.head? = some ['-', '-'] then words.drop 1 else words
  match letters.find? fun c => !"as".toList.contains c with
  | some c => do
    mutter ("Illegal option -".toList ++ [c, '\n'])
    unless letters.contains 's' do printLine "Usage: /usr/bin/which [-as] args".toList
    pure 2
  | none => do
    let found ← words.mapM fun word => do
      let paths ← if word.contains '/' then pure [word]
        else pure ((← roads).map fun dir => below (if dir.isEmpty then ['.'] else dir) word)
      let there ← paths.filterM canRun
      unless letters.contains 's' do
        (if letters.contains 'a' then there else there.take 1).forM printLine
      pure !there.isEmpty
    pure (if !found.isEmpty && found.all fun b => b then 0 else 1)

/-! ## New files -/

/-- Characters of names that are made up. -/
def madeUpChars : Octets := "abcdefghijklmnopqrstuvwxyzABCDEFGHIJKLMNOPQRSTUVWXYZ0123456789".toList

/-- A name that is made up, from a number. -/
def madeUp : Nat → Nat → Octets
  | 0, _ => []
  | count + 1, n =>
    let next := (n * 6364136223846793005 + 1442695040888963407) % 18446744073709551616
    madeUpChars.getD (next / 4294967296 % 62) 'x' :: madeUp count next

/-- Make a file or a directory with a name that is made up. -/
def mktemp (args : List Octets) : Work Nat := do
  let (settings, words) ← readOptions
    [⟨some 'd', "directory", .nothing⟩, ⟨some 'u', "dry-run", .nothing⟩, ⟨some 'q', "quiet", .nothing⟩,
      ⟨some 'p', "p", .word⟩, ⟨none, "tmpdir", .maybeWord⟩, ⟨none, "suffix", .word⟩, ⟨some 't', "t", .nothing⟩] args
  if 1 < words.length then misuse "too many templates".toList
  let ending := (settings.last? "suffix").getD []
  let template := words.headD "tmp.XXXXXXXXXX".toList
  if settings.has "suffix" && template.getLast? ≠ some 'X' then
    fail ("with --suffix, template ".toList ++ quoteWord template ++ " must end in X".toList)
  let tail := (template.reverse.takeWhile (· != 'X')).reverse
  let trimmed := template.take (template.length - tail.length)
  let ending := tail ++ ending
  let count := (trimmed.reverse.takeWhile (· == 'X')).length
  if ending.contains '/' then fail ("invalid suffix ".toList ++ quoteWord ending ++ ", contains directory separator".toList)
  if count < 3 then fail ("too few X's in template ".toList ++ quoteWord template)
  let root := ((← get).environment.lookup "TMPDIR".toList).getD []
  let root := if root.isEmpty then "/tmp".toList else root
  let directory := (settings.last? "p").or (settings.last? "tmpdir")
  let inside := settings.has "t" || settings.has "p" || settings.has "tmpdir" || words.isEmpty
  if settings.has "t" && template.contains '/' then
    fail ("invalid template, ".toList ++ quoteWord template ++ ", contains directory separator".toList)
  if inside && template.head? = some '/' then
    fail ("invalid template, ".toList ++ quoteWord template ++ "; with --tmpdir, it may not be absolute".toList)
  let place (cs : Octets) : Octets := if inside then below (directory.getD root) cs else cs
  let me : Identity ← ask .identity
  let now : Nat ← ask .clock
  let path := place (trimmed.take (trimmed.length - count) ++ madeUp count (me.process * 1000003 + now) ++ ending)
  let kind := if settings.has "directory" then "directory" else "file"
  let made : Except OsError Unit ←
    if settings.has "dry-run" then pure (.ok ())
    else if settings.has "directory" then ask (.makeDirectory path 0o700)
    else
      match ← ask (.openFile path { reads := true, writes := true, creates := true, exclusive := true } 0o600) with
      | .ok n => do
        let _ ← ask (.close n)
        pure (.ok ())
      | .error e => pure (.error e)
  match made with
  | .ok _ => do
    printLine path
    pure 0
  | .error e =>
    if settings.has "quiet" then pure 1
    else
      fail ("failed to create ".toList ++ kind.toList ++ " via template ".toList ++
        quoteWord (place (trimmed ++ ending)) ++ ": ".toList ++ e.words.toList)

end Work

end Diagnostics.Sandbox
