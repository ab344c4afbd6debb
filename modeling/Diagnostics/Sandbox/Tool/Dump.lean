import Diagnostics.Sandbox.Tool.Count
import Diagnostics.Sandbox.Tool.Ends

/-!
# Dumping octets

The tool that shows the octets of files as numbers or signs, a block of them on each line, under the place at which
they stand. Lines of several kinds show the same block, one below the other.
-/

namespace Diagnostics.Sandbox

/-- How a field of some octets is shown. -/
inductive DumpKind
  | signed
  | unsigned
  | octal
  | hex
  | sign
  | name
  deriving DecidableEq

/-- A kind of line: how fields are shown, how many octets are in one, and whether the text follows. -/
structure DumpLine where
  kind : DumpKind
  size : Nat
  withText : Bool := false

namespace DumpLine

/-- The width of fields. -/
def width (l : DumpLine) : Nat :=
  match l.kind with
  | .signed => ([0, 4, 6, 8, 11, 13, 16, 18, 20][l.size]?).getD 20
  | .unsigned => ([0, 3, 5, 8, 10, 13, 15, 17, 20][l.size]?).getD 20
  | .octal => (8 * l.size + 2) / 3
  | .hex => 2 * l.size
  | .sign => 3
  | .name => 3

/-- Names of the characters that are not shown. -/
def controlNames : List String :=
  ["nul", "soh", "stx", "etx", "eot", "enq", "ack", "bel", "bs", "ht", "nl", "vt", "ff", "cr", "so", "si", "dle",
    "dc1", "dc2", "dc3", "dc4", "nak", "syn", "etb", "can", "em", "sub", "esc", "fs", "gs", "rs", "us", "sp"]

/-- A character by its name. -/
def nameOf (c : Char) : Octets :=
  let n := c.toNat % 128
  if n = 127 then "del".toList
  else match controlNames[n]? with
    | some name => name.toList
    | none => [Char.ofNat n]

/-- A character as a sign, an escape or a number. -/
def signOf (c : Char) : Octets :=
  match ['\x00', '\x07', '\x08', '\t', '\n', '\x0b', '\x0c', '\r'].zip "0abtnvfr".toList |>.lookup c with
  | some letter => ['\\', letter]
  | none => if isShown c then [c] else threeOctal c.toNat

/-- A field. The first octet of a number weighs least. -/
def field (l : DumpLine) (octets : Octets) : Octets :=
  let n := octets.foldr (fun c n => 256 * n + c.toNat) 0
  let padded (base : Nat) : Octets :=
    let ds := Nat.toDigits base n
    List.replicate (l.width - ds.length) '0' ++ ds
  match l.kind with
  | .unsigned => (toString n).toList
  | .signed =>
    let top := Nat.pow 256 l.size
    (toString (if 2 * n < top then (n : Int) else (n : Int) - top)).toList
  | .octal => padded 8
  | .hex => padded 16
  | .sign => signOf (octets.headD '\x00')
  | .name => nameOf (octets.headD '\x00')

end DumpLine

/-- How octets are dumped: the kinds of lines, the base of places (none if they are not shown), how many octets are
in a block, and whether blocks that are alike are all shown. -/
structure DumpStyle where
  lines : List DumpLine
  base : Option Nat
  block : Nat
  showsAll : Bool

namespace DumpStyle

/-- The width of places. -/
def placeWidth (s : DumpStyle) : Nat :=
  match s.base with
  | none => 0
  | some 16 => 6
  | some _ => 7

/-- A place. -/
def place (s : DumpStyle) (n : Nat) : Octets :=
  match s.base with
  | none => []
  | some base =>
    let ds := Nat.toDigits base n
    List.replicate (s.placeWidth - ds.length) '0' ++ ds

/-- The width of the widest line. -/
def width (s : DumpStyle) : Nat :=
  s.lines.foldl (fun n l => max n ((l.width + 1) * (s.block / l.size))) 0

/-- Fields that come after some, each with what fills it up to its share of the line. -/
def fields (l : DumpLine) (pad fields blank : Nat) : Nat → Nat → Octets → List Octets
  | 0, _, _ => []
  | i + 1, left, octets =>
    if i + 1 ≤ blank then []
    else
      let next := pad * i / fields
      let cs := l.field (octets.take l.size)
      (List.replicate (left - next + l.width - cs.length) ' ' ++ cs)
        :: DumpStyle.fields l pad fields blank i next (octets.drop l.size)

/-- A block in a kind of line. -/
def line (s : DumpStyle) (l : DumpLine) (octets : Octets) : Octets :=
  let count := s.block / l.size
  let blank := (s.block - octets.length) / l.size
  let pad := s.width - l.width * count
  let filled := octets ++ List.replicate (s.block - octets.length) '\x00'
  let shown := (DumpStyle.fields l pad count blank count pad filled).flatten
  if l.withText then
    shown ++ List.replicate (blank * l.width + pad * blank / count) ' ' ++ "  >".toList ++
      octets.map (fun c => if isShown c then c else '.') ++ ['<']
  else shown

/-- A block in all kinds of lines. -/
def blockLines (s : DumpStyle) (start : Nat) (octets : Octets) : Octets :=
  (s.lines.zipIdx).flatMap fun (l, i) =>
    (if i = 0 then s.place start else List.replicate s.placeWidth ' ') ++ s.line l octets ++ ['\n']

/-- All blocks. A full block like the one before is left out, and a star stands for all of those. -/
def blocks (s : DumpStyle) : Nat → Nat → Option Octets → Bool → Octets → List Octets → List Octets
  | 0, _, _, _, _, seen => seen.reverse
  | fuel + 1, start, before, isSkipping, octets, seen =>
    match octets with
    | [] => ((if s.base.isSome then s.place start ++ ['\n'] else []) :: seen).reverse
    | octets =>
      let block := octets.take s.block
      let rest := octets.drop s.block
      if !s.showsAll && before = some block && block.length = s.block then
        blocks s fuel (start + block.length) before true rest (if isSkipping then seen else "*\n".toList :: seen)
      else
        blocks s fuel (start + block.length) (some block) false rest (s.blockLines start block :: seen)

end DumpStyle

namespace Work

/-- Sizes of fields by letters. -/
def dumpSizes : List (Char × Nat) := [('C', 1), ('S', 2), ('I', 4), ('L', 8)]

/-- Kinds of lines as an option gives them. -/
def dumpLines (whole : Octets) : Nat → Octets → Work (List DumpLine)
  | 0, _ => pure []
  | _, [] => pure []
  | fuel + 1, c :: rest => do
    let after (l : DumpLine) (rest : Octets) : Work (List DumpLine) := do
      match rest with
      | 'z' :: rest => return { l with withText := true } :: (← dumpLines whole fuel rest)
      | rest => return l :: (← dumpLines whole fuel rest)
    let sized (kind : DumpKind) : Work (List DumpLine) := do
      let ds := rest.takeWhile Char.isDigit
      match rest with
      | d :: more =>
        match dumpSizes.lookup d with
        | some size => after ⟨kind, size, false⟩ more
        | none =>
          if ds.isEmpty then after ⟨kind, 4, false⟩ rest
          else
            let n := (takeNumeral 10 0 ds).1
            if [1, 2, 4, 8].contains n then after ⟨kind, n, false⟩ (rest.drop ds.length)
            else
              fail ("invalid type string ".toList ++ quoteWord whole ++
                ";\nthis system doesn't provide a ".toList ++ (toString n).toList ++ "-byte integral type".toList)
      | [] => after ⟨kind, 4, false⟩ []
    match c with
    | 'd' => sized .signed
    | 'u' => sized .unsigned
    | 'o' => sized .octal
    | 'x' => sized .hex
    | 'c' => after ⟨.sign, 1, false⟩ rest
    | 'a' => after ⟨.name, 1, false⟩ rest
    | c => fail ("invalid character ".toList ++ quoteWord [c] ++ " in type string ".toList ++ quoteWord whole)

/-- Letters that stand for kinds of lines. -/
def dumpShorthands : List (Char × String) :=
  [('a', "a"), ('b', "o1"), ('c', "c"), ('d', "u2"), ('D', "u4"), ('h', "x2"), ('H', "x4"), ('i', "dI"), ('I', "dL"),
    ('l', "dL"), ('L', "dL"), ('o', "o2"), ('O', "o4"), ('B', "o2"), ('s', "d2"), ('x', "x2"), ('X', "x4")]

/-- A count of octets that an option gives. -/
def dumpCount (letter : Char) (cs : Octets) : Work Nat :=
  let (base, ds) := match cs with
    | '0' :: 'x' :: ds => (16, ds)
    | '0' :: 'X' :: ds => (16, ds)
    | '0' :: ds => (8, '0' :: ds)
    | ds => (10, ds)
  let (n, rest) := takeNumeral base 0 ds
  match countUnits.find? fun u => u.1.toList == rest with
  | some (_, unit) => if rest.length < ds.length then pure (n * unit) else bad
  | none => bad
where
  /-- The count cannot be read. -/
  bad : Work Nat := fail ("invalid -".toList ++ [letter] ++ " argument ".toList ++ quoteWord cs)

/-- Read so many octets at most. -/
def readUpTo (descriptor : Nat) : Nat → Nat → List Octets → Work (Except OsError Octets)
  | 0, _, seen => pure (.ok seen.reverse.flatten)
  | fuel + 1, left, seen => do
    if left = 0 then pure (.ok seen.reverse.flatten)
    else
      match ← ask (.read descriptor (min left Task.readChunk)) with
      | .ok [] => pure (.ok seen.reverse.flatten)
      | .ok cs => readUpTo descriptor fuel (left - cs.length) (cs :: seen)
      | .error e => pure (.error e)

/-- The octets of files, one after the other, so many at most; none if no file can be read. -/
def octetsOf : List Octets → Nat → Option Octets → Work (Option Octets)
  | [], _, seen => pure seen
  | path :: paths, left, seen => do
    if left = 0 && seen.isSome then pure seen
    else
      match ← openInput path with
      | .error e => do
        blameFile path e
        octetsOf paths left seen
      | .ok descriptor => do
        let content ← readUpTo descriptor Task.moveLimit left []
        closeInput descriptor
        match content with
        | .ok cs => octetsOf paths (left - cs.length) (some (seen.getD [] ++ cs))
        | .error e => do
          blameFile path e
          octetsOf paths left (some (seen.getD []))

/-- Dump the octets of files. -/
def od (args : List Octets) : Work Nat := do
  let rules : List OptionRule := dumpShorthands.map (fun (c, _) => ⟨some c, String.ofList [c], .nothing⟩) ++
    [⟨some 'A', "address-radix", .word⟩, ⟨some 'j', "skip-bytes", .word⟩, ⟨some 'N', "read-bytes", .word⟩,
      ⟨some 't', "format", .word⟩, ⟨some 'v', "output-duplicates", .nothing⟩, ⟨some 'w', "width", .maybeWord⟩,
      ⟨none, "traditional", .nothing⟩, ⟨none, "endian", .word⟩]
  let (settings, paths) ← readOptions rules args
  let base ← match settings.last? "address-radix" with
    | none => pure (some 8)
    | some ['d'] => pure (some 10)
    | some ['o'] => pure (some 8)
    | some ['x'] => pure (some 16)
    | some ['n'] => pure none
    | some cs => fail ("invalid output address radix ".toList ++ quoteWord cs ++
        "; it must be one character from [doxn]".toList)
  let lines ← settings.mapM fun (name, value) => do
    if name == "format" then
      let cs := value.getD []
      dumpLines cs (cs.length + 1) cs
    else
      match name.toList with
      | [c] =>
        let cs := ((dumpShorthands.lookup c).getD "").toList
        dumpLines cs (cs.length + 1) cs
      | _ => pure []
  let lines := lines.flatten
  let lines := if lines.isEmpty then [⟨.octal, 2, false⟩] else lines
  let skip ← match settings.last? "skip-bytes" with
    | some cs => dumpCount 'j' cs
    | none => pure 0
  let most ← match settings.last? "read-bytes" with
    | some cs => do pure (some (← dumpCount 'N' cs))
    | none => pure none
  let unit := lines.foldl (fun n l => Nat.lcm n l.size) 1
  let block ← if settings.has "width" then do
      let n ← match settings.last? "width" with
        | some cs => dumpCount 'w' cs
        | none => pure 32
      if 0 < n && n % unit = 0 then pure n
      else do
        complain ("warning: invalid width ".toList ++ (toString n).toList ++ "; using ".toList ++
          (toString unit).toList ++ " instead".toList)
        pure unit
    else pure (if unit < 16 then unit * (16 / unit) else unit)
  let style : DumpStyle := { lines, base, block, showsAll := settings.has "output-duplicates" }
  let paths := if paths.isEmpty then [['-']] else paths
  match ← octetsOf paths (match most with
    | some n => skip + n
    | none => Task.moveLimit) none with
  | none => status
  | some all =>
    if all.length < skip then fail "cannot skip past end of combined input".toList
    else
      let wanted := all.drop skip
      (style.blocks (wanted.length + 1) skip none false wanted []).forM print
      status

end Work

end Diagnostics.Sandbox
