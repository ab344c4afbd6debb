import Diagnostics.Sandbox.Tool.Number

/-!
# Copying blocks

The tool that copies a file in blocks of a size: it leaves blocks out before it begins, changes octets, and counts the
blocks that it has read and written.
-/

namespace Diagnostics.Sandbox

/-- How blocks are copied. -/
structure BlockWish where
  source : Option Octets := none
  target : Option Octets := none
  readSize : Nat := 512
  writeSize : Nat := 512
  whole : Bool := false
  count : Option Nat := none
  skipped : Nat := 0
  sought : Nat := 0
  conversions : List String := []
  readFlags : List String := []
  writeFlags : List String := []
  level : String := ""
  column : Nat := 0

/-- How many blocks have been copied whole and in part, and how many octets have been written. -/
structure BlockCount where
  wholeIn : Nat := 0
  partIn : Nat := 0
  wholeOut : Nat := 0
  partOut : Nat := 0
  octetsIn : Nat := 0
  octets : Nat := 0

namespace Work

/-- Conversions of blocks. -/
def conversionNames : List String :=
  ["ascii", "ebcdic", "ibm", "block", "unblock", "lcase", "ucase", "sparse", "swab", "sync", "excl", "nocreat", "notrunc",
    "noerror", "fdatasync", "fsync"]

/-- Ways of reading and writing blocks. -/
def blockFlagNames : List String :=
  ["append", "direct", "directory", "dsync", "sync", "fullblock", "nonblock", "noatime", "nocache", "noctty", "nofollow",
    "count_bytes", "skip_bytes", "seek_bytes"]

/-- Numbers with units, multiplied with each other. -/
def productOf? (cs : Octets) : Option Nat :=
  let factor (cs : Octets) : Option Nat :=
    match cs.getLast? with
    | some 'w' => (countOf? cs.dropLast).map (2 * ·)
    | some 'c' => countOf? cs.dropLast
    | some 'B' => (countOf? cs).or (countOf? cs.dropLast)
    | _ => countOf? cs
  (((String.ofList cs).splitOn "x").mapM fun part => factor part.toList).map (·.foldl (· * ·) 1)

/-- A number with a unit. -/
def blockNumber (least : Nat) (cs : Octets) : Work Nat := do
  match productOf? cs with
  | some n => if n < least then fail ("invalid number: ".toList ++ quoteWord cs) else pure n
  | none => fail ("invalid number: ".toList ++ quoteWord cs)

/-- Names between commas. -/
def blockNames (what : String) (known : List String) (cs : Octets) : Work (List String) := do
  ((String.ofList cs).splitOn ",").mapM fun name => do
    if known.contains name then pure name
    else misuse ("invalid ".toList ++ what.toList ++ ": ".toList ++ quoteWord name.toList)

/-- Read one operand. -/
def readBlockOperand (w : BlockWish) (word : Octets) : Work BlockWish := do
  let name := word.takeWhile (· != '=')
  match word.drop name.length with
  | [] => misuse ("unrecognized operand ".toList ++ quoteWord word)
  | _ :: value =>
    match String.ofList name with
    | "if" => pure { w with source := some value }
    | "of" => pure { w with target := some value }
    | "ibs" => do pure { w with readSize := ← blockNumber 1 value }
    | "obs" => do pure { w with writeSize := ← blockNumber 1 value }
    | "bs" => do
      let n ← blockNumber 1 value
      pure { w with readSize := n, writeSize := n, whole := true }
    | "cbs" => do pure { w with column := ← blockNumber 1 value }
    | "count" => do
      let n ← blockNumber 0 value
      pure { w with count := some n, readFlags := if value.getLast? = some 'B' then "count_bytes" :: w.readFlags else w.readFlags }
    | "skip" => do pure { w with skipped := ← blockNumber 0 value }
    | "iseek" => do pure { w with skipped := ← blockNumber 0 value }
    | "seek" => do pure { w with sought := ← blockNumber 0 value }
    | "oseek" => do pure { w with sought := ← blockNumber 0 value }
    | "conv" => do pure { w with conversions := w.conversions ++ (← blockNames "conversion" conversionNames value) }
    | "iflag" => do pure { w with readFlags := w.readFlags ++ (← blockNames "input flag" blockFlagNames value) }
    | "oflag" => do pure { w with writeFlags := w.writeFlags ++ (← blockNames "output flag" blockFlagNames value) }
    | "status" =>
      let level := String.ofList value
      if ["none", "noxfer", "progress"].contains level then pure { w with level }
      else misuse ("invalid status level: ".toList ++ quoteWord value)
    | _ => misuse ("unrecognized operand ".toList ++ quoteWord word)

/-- Neighbours changed with each other. -/
def swapped : Octets → Octets
  | a :: b :: rest => b :: a :: swapped rest
  | cs => cs

/-- Change the octets of a block. -/
def converted (w : BlockWish) (cs : Octets) : Octets :=
  let has (name : String) : Bool := w.conversions.contains name
  let cs := if has "sync" then
      cs ++ List.replicate (w.readSize - cs.length) (if has "block" || has "unblock" then ' ' else '\x00')
    else cs
  let cs := if has "swab" then swapped cs else cs
  if has "ucase" then cs.map Char.toUpper else if has "lcase" then cs.map Char.toLower else cs

/-- Read one block, as a whole if that is wanted; `fuel` bounds the number of reads. -/
def readBlock (size : Nat) (full : Bool) : Nat → Octets → Work (Except OsError Octets)
  | 0, seen => pure (.ok seen)
  | fuel + 1, seen => do
    match ← ask (.read 0 (size - seen.length)) with
    | .error e => pure (.error e)
    | .ok [] => pure (.ok seen)
    | .ok cs =>
      let seen := seen ++ cs
      if full && seen.length < size then readBlock size full fuel seen else pure (.ok seen)

/-- Say how much has been copied. -/
def tellBlocks (w : BlockWish) (n : BlockCount) (start : Nat) : Work Unit := do
  if w.level ≠ "none" then
    let pair (a b : Nat) (what : String) : Octets :=
      (toString a).toList ++ '+' :: (toString b).toList ++ " records ".toList ++ what.toList ++ ['\n']
    mutter (pair n.wholeIn n.partIn "in" ++ pair n.wholeOut n.partOut "out")
    if w.level ≠ "noxfer" then
      let now : Nat ← ask .clock
      let took := now - start
      mutter ((toString n.octets).toList ++ (if n.octets = 1 then " byte" else " bytes").toList ++ " copied, ".toList ++
        pointed true took 6 ++ " s, ".toList ++ (toString (n.octets * 1000 / max took 1)).toList ++ " kB/s\n".toList)

/-- Write what has been read in blocks. The rest that is less than a block is written at the end. -/
def writeBlocks (w : BlockWish) : Nat → Octets → BlockCount → Work (Octets × BlockCount)
  | 0, cs, n => pure (cs, n)
  | fuel + 1, cs, n => do
    if cs.length < w.writeSize then pure (cs, n)
    else
      match ← Task.writeAll 1 (cs.take w.writeSize) with
      | some e => do
        complain ("error writing ".toList ++ quoteName (w.target.getD "standard output".toList) ++ ": ".toList ++
          e.words.toList)
        throw 1
      | none =>
        writeBlocks w fuel (cs.drop w.writeSize)
          { n with wholeOut := n.wholeOut + 1, octets := n.octets + w.writeSize }

/-- Write what is left as a block that is not whole. -/
def writeRest (w : BlockWish) (cs : Octets) (n : BlockCount) : Work BlockCount := do
  if cs.isEmpty then pure n
  else
    match ← Task.writeAll 1 cs with
    | some e => do
      complain ("error writing ".toList ++ quoteName (w.target.getD "standard output".toList) ++ ": ".toList ++
        e.words.toList)
      throw 1
    | none => pure { n with partOut := n.partOut + 1, octets := n.octets + cs.length }

/-- Copy blocks up to the end, or as many as are wanted. -/
def copyBlocks (w : BlockWish) : Nat → Octets → BlockCount → Work BlockCount
  | 0, _, n => pure n
  | fuel + 1, held, n => do
    let seen := n.wholeIn + n.partIn
    let inOctets := w.readFlags.contains "count_bytes"
    let taken := n.octetsIn
    let size := match w.count with
      | some m => if inOctets then min w.readSize (m - taken) else w.readSize
      | none => w.readSize
    let isDone : Bool := match w.count with
      | some m => if inOctets then m ≤ taken else m ≤ seen
      | none => false
    if isDone then writeRest w held n
    else
      match ← readBlock size (w.readFlags.contains "fullblock") Task.moveLimit [] with
      | .error e => do
        complain ("error reading ".toList ++ quoteName (w.source.getD "standard input".toList) ++ ": ".toList ++
          e.words.toList)
        throw 1
      | .ok [] => writeRest w held n
      | .ok cs => do
        let n := { n with octetsIn := n.octetsIn + cs.length }
        let n := if cs.length = w.readSize then { n with wholeIn := n.wholeIn + 1 } else { n with partIn := n.partIn + 1 }
        let cs := converted w cs
        if w.whole && w.conversions.all fun c => !(["block", "unblock", "swab"].contains c) then
          let n ← if cs.length = w.writeSize then do
              let (_, n) ← writeBlocks w 1 cs n
              pure n
            else writeRest w cs n
          copyBlocks w fuel [] n
        else
          let (held, n) ← writeBlocks w (held.length + cs.length + 1) (held ++ cs) n
          copyBlocks w fuel held n

/-- Leave out what comes first: by seeking, or else by reading. -/
def skipBlocks (w : BlockWish) : Work Unit := do
  let amount := if w.readFlags.contains "skip_bytes" then w.skipped else w.skipped * w.readSize
  if amount ≠ 0 then
    let size : Option Nat := match ← ask (.lookDescriptor 0) with
      | .ok { content := .regular _, size, .. } => some size
      | _ => none
    match size with
    | some size => do
      let _ ← ask (.seek 0 (amount : Nat) 1)
      if size < amount && w.level ≠ "none" then
        complain (w.source.getD "standard input".toList ++ ": cannot skip to specified offset".toList)
    | none => do
      let got : Nat := match ← readBlock amount true Task.moveLimit [] with
        | .ok cs => cs.length
        | .error _ => 0
      if got < amount && w.level ≠ "none" then
        complain (quoteName (w.source.getD "standard input".toList) ++ ": cannot skip to specified offset".toList)

/-- Copy a file in blocks. -/
def dd (args : List Octets) : Work Nat := do
  let (_, words) ← readOptions [] args
  let w ← words.foldlM readBlockOperand {}
  let has (name : String) : Bool := w.conversions.contains name
  if has "lcase" && has "ucase" then fail "cannot combine lcase and ucase".toList
  if has "excl" && has "nocreat" then fail "cannot combine excl and nocreat".toList
  let connect (path : Octets) (mode : OpenMode) (number : Nat) : Work Unit := do
    match ← ask (.openFile path mode 0o666) with
    | .ok n =>
      if n ≠ number then
        let _ ← ask (.duplicate n number)
        let _ ← ask (.close n)
    | .error e => fail ("failed to open ".toList ++ quoteName path ++ ": ".toList ++ e.words.toList)
  match w.source with
  | some path => connect path { reads := true } 0
  | none => pure ()
  let keeps := has "notrunc"
  match w.target with
  | some path =>
    connect path
      { writes := true, creates := !has "nocreat", exclusive := has "excl"
        empties := !keeps && w.sought = 0, appends := w.writeFlags.contains "append" } 1
  | none => pure ()
  let start : Nat ← ask .clock
  skipBlocks w
  if w.sought ≠ 0 then
    let place := if w.writeFlags.contains "seek_bytes" then w.sought else w.sought * w.writeSize
    if w.target.isSome && !keeps then
      let _ ← ask (.resizeDescriptor 1 place)
    let _ ← ask (.seek 1 (place : Nat) 0)
  let (failed, n) ← match ← (copyBlocks w Task.moveLimit [] {}).attempt with
    | .ok n => pure (false, n)
    | .error _ => pure (true, {})
  tellBlocks w n start
  pure (if failed then 1 else 0)

end Work

end Diagnostics.Sandbox
