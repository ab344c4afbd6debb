import Diagnostics.Sandbox.Tool.Number

/-!
# Comparing octets

The tool that says where two files differ first, or everywhere.
-/

namespace Diagnostics.Sandbox

namespace Work

/-- An octet in octal digits. -/
def octalOf (c : Char) : Octets :=
  let ds := Nat.toDigits 8 c.toNat
  List.replicate (3 - ds.length) ' ' ++ ds

/-- An octet as it is shown. -/
def visibleOctet (c : Char) : Octets :=
  let low (c : Char) : Octets :=
    if c.toNat < 32 then ['^', Char.ofNat (c.toNat + 64)] else if c.toNat = 127 then ['^', '?'] else [c]
  if c.toNat < 128 then low c else 'M' :: '-' :: low (Char.ofNat (c.toNat - 128))

/-- A number of octets for an option. -/
def octetCount (option : String) (cs : Octets) : Work Nat := do
  match countOf? cs with
  | some n => pure n
  | none => misuse ("invalid --".toList ++ option.toList ++ " value ".toList ++ quoteWord cs)

/-- The numbers of octets that are left out of two files. -/
def ignoredCounts (cs : Octets) : Work (Nat × Nat) := do
  match (String.ofList cs).splitOn ":" with
  | [a, b] => do pure (← octetCount "ignore-initial" a.toList, ← octetCount "ignore-initial" b.toList)
  | _ => do
    let n ← octetCount "ignore-initial" cs
    pure (n, n)

/-- Compare two files. -/
def cmp (args : List Octets) : Work Nat := do
  let me := (← get).name
  modify fun t => { t with advice := me ++ ": ".toList ++ whereHelpIs me }
  let (settings, words) ← readOptions
    [⟨some 'b', "print-bytes", .nothing⟩, ⟨some 'i', "ignore-initial", .word⟩, ⟨some 'l', "verbose", .nothing⟩,
      ⟨some 'n', "bytes", .word⟩, ⟨some 's', "quiet", .nothing⟩, ⟨none, "silent", .nothing⟩] args
  let quiet := settings.has "quiet" || settings.has "silent"
  let all := settings.has "verbose"
  let shows := settings.has "print-bytes"
  let (ignored, ignoredToo) ← match settings.last? "ignore-initial" with
    | some cs => ignoredCounts cs
    | none => pure (0, 0)
  let most ← match settings.last? "bytes" with
    | some cs => do pure (some (← octetCount "bytes" cs))
    | none => pure none
  if all && quiet then misuse "options -l and -s are incompatible".toList
  if words.isEmpty then misuse ("missing operand after ".toList ++ quoteWord me)
  let counts ← ((words.drop 2).take 2).mapM (octetCount "ignore-initial")
  match words.drop 4 with
  | extra :: _ => misuse ("extra operand ".toList ++ quoteWord extra)
  | [] => pure ()
  let ignored := counts.getD 0 ignored
  let ignoredToo := counts.getD 1 ignoredToo
  let first := words.headD ['-']
  let second := words.getD 1 ['-']
  let contentOr (path : Octets) : Work Octets := do
    match ← contentOf path with
    | .ok cs => pure cs
    | .error e => do
      unless quiet && e = .noSuchFile do complain (path ++ ": ".toList ++ e.words.toList)
      throw 2
  if first = second then pure 0
  else
    let a := (← contentOr first).drop ignored
    let b := (← contentOr second).drop ignoredToo
    let (a, b) := match most with
      | some n => (a.take n, b.take n)
      | none => (a, b)
    let differences := ((a.zip b).zipIdx).filter fun ((x, y), _) => x != y
    let common := min a.length b.length
    let width := if all then (toString common).length else 0
    let numbered (n : Nat) : Octets :=
      let ds := (toString n).toList
      List.replicate (width - ds.length) ' ' ++ ds
    let filled (cs : Octets) : Octets := cs ++ List.replicate (4 - cs.length) ' '
    let ends : Work Nat := do
      if a.length = b.length then pure (if differences.isEmpty then 0 else 1)
      else
        let (path, text) := if a.length < b.length then (first, a) else (second, b)
        unless quiet do
          let place := if text.isEmpty then " which is empty".toList
            else
              " after byte ".toList ++ (toString common).toList ++
                (if all then []
                else
                  let lines := (text.filter (· == '\n')).length
                  if text.getLast? = some '\n' then ", line ".toList ++ (toString lines).toList
                  else ", in line ".toList ++ (toString (lines + 1)).toList)
          complain ("EOF on ".toList ++ path ++ place)
        pure 1
    if all then
      differences.forM fun ((x, y), i) =>
        printLine (numbered (i + 1) ++ ' ' :: octalOf x ++ (if shows then ' ' :: filled (visibleOctet x) else []) ++
          ' ' :: octalOf y ++ (if shows then ' ' :: visibleOctet y else []))
      ends
    else
      match differences with
      | ((x, y), i) :: _ => do
        unless quiet do
          let line := (((a.take i).filter (· == '\n')).length + 1)
          printLine (first ++ ' ' :: second ++ " differ: ".toList ++ (if shows then "byte " else "char ").toList ++
            (toString (i + 1)).toList ++ ", line ".toList ++ (toString line).toList ++
            (if shows then " is ".toList ++ octalOf x ++ ' ' :: visibleOctet x ++ ' ' :: octalOf y ++ ' ' :: visibleOctet y
            else []))
        pure 1
      | [] => ends

end Work

end Diagnostics.Sandbox
