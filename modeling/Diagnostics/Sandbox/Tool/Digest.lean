import Diagnostics.Sandbox.Tool.Digest.Sum
import Diagnostics.Sandbox.Tool.Number

/-!
# Digests of files

Tools that print digests and sums of files, and that check files against digests which have been written down.
-/

namespace Diagnostics.Sandbox

/-- Octets as digits in base sixteen. -/
def hexOf (cs : Octets) : Octets :=
  cs.flatMap fun c =>
    let ds := Nat.toDigits 16 c.toNat
    if ds.length < 2 then '0' :: ds else ds

/-- A line that holds the digest of a file. -/
structure DigestLine where
  hex : Octets
  path : Octets

/-- What has been found while files are checked. -/
structure DigestCheck where
  proper : Nat := 0
  improper : Nat := 0
  unread : Nat := 0
  wrong : Nat := 0
  right : Nat := 0

namespace DigestLine

/-- A name with its escapes replaced. -/
def unescapedName : Octets → Octets
  | '\\' :: 'n' :: rest => '\n' :: unescapedName rest
  | '\\' :: '\\' :: rest => '\\' :: unescapedName rest
  | c :: rest => c :: unescapedName rest
  | [] => []

/-- Read a line with a digest of a kind. -/
def ofLine? (d : Digest) (line : Octets) : Option DigestLine :=
  let isHex (cs : Octets) : Bool := cs.length = 2 * d.size && cs.all fun c => (digitIn? 16 c).isSome
  let line := line.dropWhile fun c => c == ' ' || c == '\t'
  let (escaped, line) := match line with
    | '\\' :: rest => (true, rest)
    | line => (false, line)
  let named (hex path : Octets) : Option DigestLine :=
    if isHex hex && !path.isEmpty then
      some { hex := hex.map Char.toLower, path := if escaped then unescapedName path else path }
    else none
  let head := d.name.toList ++ " (".toList
  if head.isPrefixOf line then
    let rest := line.drop head.length
    let hex := (rest.reverse.takeWhile (· != ' ')).reverse
    let before := rest.take (rest.length - hex.length)
    if ") = ".toList.isSuffixOf before then named hex (before.take (before.length - 4)) else none
  else
    let hex := line.take (2 * d.size)
    match line.drop (2 * d.size) with
    | ' ' :: ' ' :: path => named hex path
    | ' ' :: '*' :: path => named hex path
    | _ => none

end DigestLine

namespace Work

/-- A name in which newlines and backslashes are escaped, and the sign before a line that holds such a name. -/
def escapedName (path : Octets) : Octets × Octets :=
  if path.any fun c => c == '\\' || c == '\n' then
    (['\\'], path.flatMap fun c => if c = '\\' then "\\\\".toList else if c = '\n' then "\\n".toList else [c])
  else ([], path)

/-- One thing, or several. -/
def counted (n : Nat) (one many : String) : Octets := (toString n).toList ++ ' ' :: (if n = 1 then one else many).toList

/-- Look at a line of digests, and check the file that it names. -/
def checkLine (d : Digest) (settings : Settings) (path : Octets) (check : DigestCheck) (line : Octets × Nat) :
    Work DigestCheck := do
  let isSilent := settings.has "status"
  if line.1.head? = some '#' then pure check
  else
    match DigestLine.ofLine? d line.1 with
    | none => do
      if settings.has "warn" then
        complain (path ++ ": ".toList ++ (toString (line.2 + 1)).toList ++ ": improperly formatted ".toList ++
          d.name.toList ++ " checksum line".toList)
      pure { check with improper := check.improper + 1 }
    | some l => do
      let check := { check with proper := check.proper + 1 }
      match ← contentOf l.path with
      | .error e =>
        if settings.has "ignore-missing" && e = .noSuchFile then pure check
        else do
          complain (quoteNameIfNeeded l.path ++ ": ".toList ++ e.words.toList)
          unless isSilent do printLine (l.path ++ ": FAILED open or read".toList)
          pure { check with unread := check.unread + 1 }
      | .ok cs =>
        if hexOf (d.apply cs) = l.hex then do
          unless isSilent || settings.has "quiet" do printLine (l.path ++ ": OK".toList)
          pure { check with right := check.right + 1 }
        else do
          unless isSilent do printLine (l.path ++ ": FAILED".toList)
          pure { check with wrong := check.wrong + 1 }

/-- Check the files that a file with digests names. -/
def checkFile (d : Digest) (settings : Settings) (path : Octets) : Work Unit := do
  match ← contentOf path with
  | .error e => blameFile path e
  | .ok cs => do
    let shown := if path = ['-'] then "'standard input'".toList else quoteNameIfNeeded path
    let lines := (linesOf cs).map bare
    let check ← lines.zipIdx.foldlM (checkLine d settings shown) {}
    let fails : Work Unit := modify fun t => { t with status := 1 }
    if check.proper = 0 then blame (shown ++ ": no properly formatted checksum lines found".toList)
    else
      unless settings.has "status" do
        let warn (n : Nat) (one many : String) : Work Unit := do
          if n ≠ 0 then complain ("WARNING: ".toList ++ counted n one many)
        warn check.improper "line is improperly formatted" "lines are improperly formatted"
        warn check.unread "listed file could not be read" "listed files could not be read"
        warn check.wrong "computed checksum did NOT match" "computed checksums did NOT match"
        if settings.has "ignore-missing" && check.right = 0 && check.wrong = 0 then
          complain (shown ++ ": no file was verified".toList)
      if check.unread ≠ 0 || check.wrong ≠ 0 || (settings.has "strict" && check.improper ≠ 0) ||
          (settings.has "ignore-missing" && check.right = 0) then fails

/-- Print digests of files, or check them. -/
def digestTool (d : Digest) (args : List Octets) : Work Nat := do
  let (settings, words) ← readOptions
    [⟨some 'b', "binary", .nothing⟩, ⟨some 'c', "check", .nothing⟩, ⟨some 't', "text", .nothing⟩,
      ⟨some 'w', "warn", .nothing⟩, ⟨some 'z', "zero", .nothing⟩, ⟨none, "tag", .nothing⟩, ⟨none, "quiet", .nothing⟩,
      ⟨none, "status", .nothing⟩, ⟨none, "strict", .nothing⟩, ⟨none, "ignore-missing", .nothing⟩] args
  let checks := settings.has "check"
  let meaningless (option : String) (where_ : String) : Work Unit := do
    if settings.has option then misuse ("the --".toList ++ option.toList ++ " option is ".toList ++ where_.toList)
  if checks then
    ["tag", "zero"].forM fun option => meaningless option "meaningless when verifying checksums"
    if settings.has "binary" || settings.has "text" then
      misuse "the --binary and --text options are meaningless when verifying checksums".toList
  else
    ["ignore-missing", "status", "warn", "quiet", "strict"].forM fun option =>
      meaningless option "meaningful only when verifying checksums"
  let paths := if words.isEmpty then [['-']] else words
  if checks then paths.forM (checkFile d settings)
  else
    paths.forM fun path => do
      match ← contentOf path with
      | .error e => blameFile path e
      | .ok cs =>
        let hex := hexOf (d.apply cs)
        let ending := if settings.has "zero" then '\x00' else '\n'
        let (sign, name) := if settings.has "zero" then ([], path) else escapedName path
        if settings.has "tag" then
          print (sign ++ d.name.toList ++ " (".toList ++ name ++ ") = ".toList ++ hex ++ [ending])
        else
          let mark := if settings.lastOf ["binary", "text"] = some "binary" then '*' else ' '
          print (sign ++ hex ++ ' ' :: mark :: name ++ [ending])
  status

/-! ## Sums -/

/-- The remainder that a polynomial leaves after one more octet. -/
def remainderStep (n : Nat) (c : Char) : Nat :=
  (List.range 8).foldl (fun r _ =>
    let shifted := lowBits 32 (2 * r)
    if r < 2147483648 then shifted else shifted ^^^ 0x04c11db7) (n ^^^ (c.toNat * 16777216))

/-- The remainder that a polynomial leaves of a text and its length. -/
def remainderOf (cs : Octets) : Nat :=
  let rec lengthOctets : Nat → Nat → Octets
    | 0, _ => []
    | fuel + 1, n => if n = 0 then [] else Char.ofNat (n % 256) :: lengthOctets fuel (n / 256)
  flipped 32 ((lengthOctets 16 cs.length).foldl remainderStep (cs.foldl remainderStep 0))

/-- Print the remainders and the lengths of files. -/
def cksum (args : List Octets) : Work Nat := do
  let (_, words) ← readOptions [] args
  (if words.isEmpty then [none] else words.map some).forM fun path => do
    match ← contentOf (path.getD ['-']) with
    | .error e => blameFile (path.getD ['-']) e
    | .ok cs =>
      printLine ((toString (remainderOf cs)).toList ++ ' ' :: (toString cs.length).toList ++
        (match path with
        | some path => ' ' :: path
        | none => []))
  status

/-- A sum in which each octet is added after a turn to the right. -/
def turnedSum (cs : Octets) : Nat :=
  cs.foldl (fun n c => lowBits 16 (n / 2 + n % 2 * 32768 + c.toNat)) 0

/-- A sum of octets, folded into sixteen bits. -/
def foldedSum (cs : Octets) : Nat :=
  let n := lowBits 32 (cs.foldl (fun n c => n + c.toNat) 0)
  let r := n % 65536 + n / 65536
  r % 65536 + r / 65536

/-- Print sums of files, with the number of their blocks. -/
def sum (args : List Octets) : Work Nat := do
  let (settings, words) ← readOptions [⟨some 'r', "r", .nothing⟩, ⟨some 's', "sysv", .nothing⟩] args
  let folds := settings.lastOf ["r", "sysv"] = some "sysv"
  (if words.isEmpty then [none] else words.map some).forM fun path => do
    match ← contentOf (path.getD ['-']) with
    | .error e => blameFile (path.getD ['-']) e
    | .ok cs =>
      let name := match path with
        | some path => ' ' :: path
        | none => []
      if folds then
        printLine ((toString (foldedSum cs)).toList ++ ' ' :: (toString ((cs.length + 511) / 512)).toList ++ name)
      else
        let ds := (toString (turnedSum cs)).toList
        let blocks := (toString ((cs.length + 1023) / 1024)).toList
        printLine (List.replicate (5 - ds.length) '0' ++ ds ++ ' ' :: List.replicate (5 - blocks.length) ' ' ++ blocks ++
          name)
  status

end Work

end Diagnostics.Sandbox
