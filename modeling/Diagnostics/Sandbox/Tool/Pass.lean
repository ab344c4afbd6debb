import Diagnostics.Sandbox.Tool.Basic

/-!
# Tools that pass on what they read

Tools that write what they read, with signs for what is not shown, with numbers before lines, in another order, or to
files as well.
-/

namespace Diagnostics.Sandbox

/-! ## Signs and numbers -/

/-- How what is read is shown. -/
structure Showing where
  numbers : Bool := false
  numbersOfText : Bool := false
  squeezes : Bool := false
  ends : Bool := false
  tabs : Bool := false
  signs : Bool := false

/-- What is remembered from line to line: the number of the last line, and how many newlines have come in a row. -/
structure ShowState where
  number : Nat := 0
  newlines : Nat := 1

namespace Showing

/-- Nothing is changed. -/
def isPlain (s : Showing) : Bool :=
  !(s.numbers || s.numbersOfText || s.squeezes || s.ends || s.tabs || s.signs)

/-- A sign below the highest bit. -/
def lowSign (c : Char) : Octets :=
  if c.toNat < 32 then ['^', Char.ofNat (c.toNat + 64)] else if c.toNat = 127 then ['^', '?'] else [c]

/-- A character as it is shown. -/
def shown (s : Showing) (c : Char) : Octets :=
  if c = '\t' then (if s.tabs then ['^', 'I'] else [c])
  else if !s.signs then [c]
  else if c.toNat < 128 then lowSign c
  else 'M' :: '-' :: lowSign (Char.ofNat (c.toNat - 128))

/-- The number of a line. -/
def lineNumber (n : Nat) : Octets :=
  let ds := (toString n).toList
  List.replicate (6 - ds.length) ' ' ++ ds ++ ['\t']

/-- Show a piece of text. -/
def apply (s : Showing) (state : ShowState) (cs : Octets) : List Octets × ShowState :=
  let (out, state) := cs.foldl (fun (out, st) c =>
    if c = '\n' then
      let isEmpty := st.newlines ≥ 1
      if s.squeezes && isEmpty && st.newlines ≥ 2 then (out, st)
      else
        let counts := isEmpty && s.numbers && !s.numbersOfText
        let head := if counts then lineNumber (st.number + 1) else []
        let number := if counts then st.number + 1 else st.number
        let tail := if s.ends then ['$', '\n'] else ['\n']
        ((head ++ tail) :: out, { st with number, newlines := st.newlines + 1 })
    else
      let counts := st.newlines ≥ 1 && (s.numbers || s.numbersOfText)
      let head := if counts then lineNumber (st.number + 1) else []
      let number := if counts then st.number + 1 else st.number
      ((head ++ s.shown c) :: out, { st with number, newlines := 0 })) (([] : List Octets), state)
  (out.reverse, state)

end Showing

namespace Work

/-- Write at once, and end if that fails. -/
def sendOrFail (cs : Octets) : Work Unit := do
  match ← Task.writeAll 1 cs with
  | some e => fail ("write error: ".toList ++ e.words.toList)
  | none => pure ()

/-- Pass on what a descriptor gives. -/
def pass (showing : Showing) (path : Octets) (descriptor : Nat) : Nat → ShowState → Work ShowState
  | 0, state => pure state
  | fuel + 1, state => do
    match ← ask (.read descriptor Task.readChunk) with
    | .ok [] => pure state
    | .ok cs => do
      if showing.isPlain then
        sendOrFail cs
        pass showing path descriptor fuel state
      else
        let (out, state) := showing.apply state cs
        sendOrFail out.flatten
        pass showing path descriptor fuel state
    | .error e => do
      blameFile path e
      pure state

/-- Write files one after the other. -/
def cat (args : List Octets) : Work Nat := do
  let (settings, paths) ← readOptions
    [⟨some 'A', "show-all", .nothing⟩, ⟨some 'b', "number-nonblank", .nothing⟩, ⟨some 'e', "e", .nothing⟩,
      ⟨some 'E', "show-ends", .nothing⟩, ⟨some 'n', "number", .nothing⟩, ⟨some 's', "squeeze-blank", .nothing⟩,
      ⟨some 't', "t", .nothing⟩, ⟨some 'T', "show-tabs", .nothing⟩, ⟨some 'u', "u", .nothing⟩,
      ⟨some 'v', "show-nonprinting", .nothing⟩] args
  let any (names : List String) : Bool := names.any settings.has
  let showing : Showing :=
    { numbers := settings.has "number", numbersOfText := settings.has "number-nonblank"
      squeezes := settings.has "squeeze-blank", ends := any ["show-all", "e", "show-ends"]
      tabs := any ["show-all", "t", "show-tabs"], signs := any ["show-all", "e", "t", "show-nonprinting"] }
  let target : FileFacts ← match ← ask (.lookDescriptor 1) with
    | .ok facts => pure facts
    | .error e => fail ("standard output: ".toList ++ e.words.toList)
  let paths := if paths.isEmpty then [['-']] else paths
  let isSame (facts : FileFacts) : Bool :=
    match facts.content, target.content with
    | .regular octets, .regular _ => facts.id == target.id && !octets.isEmpty
    | _, _ => false
  let _ ← paths.foldlM (fun (state : ShowState) path => do
    match ← openInput path with
    | .error e => do
      blameFile path e
      pure state
    | .ok descriptor => do
      let facts : Except OsError FileFacts ← ask (.lookDescriptor descriptor)
      let position : Except OsError Nat ← ask (.seek descriptor 0 1)
      let same := match facts, position with
        | .ok facts, .ok n => isSame facts && n < facts.size
        | _, _ => false
      let state ← match facts with
        | .error e => do
          blameFile path e
          pure state
        | .ok _ =>
          if same then do
            blame (quoteNameIfNeeded path ++ ": input file is output file".toList)
            pure state
          else pass showing path descriptor Task.moveLimit state
      closeInput descriptor
      pure state) {}
  if paths.contains ['-'] then
    match ← ask (.close 0) with
    | .error e => fail ("closing standard input: ".toList ++ e.words.toList)
    | .ok _ => pure ()
  status

/-! ## Opposite orders -/

/-- The pieces between separators, from the last one back; each keeps the separator after it, or before it. -/
def piecesBack (separator : Octets) (before : Bool) (cs : Octets) : List Octets :=
  let backwards := separator.reverse
  let rec go : Nat → Octets → Octets → List Octets → List Octets
    | 0, _, piece, done => (piece :: done).reverse
    | _, [], piece, done => (piece :: done).reverse
    | fuel + 1, c :: rest, piece, done =>
      if !backwards.isPrefixOf (c :: rest) then go fuel rest (c :: piece) done
      else
        let left := (c :: rest).drop separator.length
        if before then go fuel left [] ((separator ++ piece) :: done) else go fuel left separator (piece :: done)
  go (cs.length + 1) cs.reverse [] []

/-- Write the lines of files in the opposite order. -/
def tac (args : List Octets) : Work Nat := do
  let (settings, paths) ← readOptions
    [⟨some 'b', "before", .nothing⟩, ⟨some 'r', "regex", .nothing⟩, ⟨some 's', "separator", .word⟩] args
  let separator := (settings.last? "separator").getD ['\n']
  let separator := if separator.isEmpty then ['\x00'] else separator
  (if paths.isEmpty then [['-']] else paths).forM fun path => do
    match ← openInput path with
    | .error e => blame ("failed to open ".toList ++ quoteName path ++ " for reading: ".toList ++ e.words.toList)
    | .ok descriptor => do
      let content : Except OsError Octets ← Task.readAll descriptor
      closeInput descriptor
      match content with
      | .error e => blame (quoteNameIfNeeded path ++ ": read error: ".toList ++ e.words.toList)
      | .ok content => (piecesBack separator (settings.has "before") content).forM print
  status

/-- Write the characters of every line in the opposite order. -/
def rev (args : List Octets) : Work Nat := do
  let (settings, paths) ← readOptions [⟨some '0', "zero", .nothing⟩] args
  let sign := if settings.has "zero" then '\x00' else '\n'
  (if paths.isEmpty then [none] else paths.map some).forM fun path => do
    let opened : Except OsError Nat ← match path with
      | none => pure (.ok 0)
      | some path => ask (.openFile path { reads := true } 0)
    match opened with
    | .error e => blame ("cannot open ".toList ++ path.getD [] ++ ": ".toList ++ e.words.toList)
    | .ok descriptor => do
      match ← Task.readAll descriptor with
      | .error e => blame (path.getD "stdin".toList ++ ": ".toList ++ e.words.toList)
      | .ok content =>
        (piecesOf sign content).forM fun line =>
          print ((bareOf sign line).reverse ++ (if line.getLast? = some sign then [sign] else []))
      closeInput descriptor
  status

/-! ## Copies in files -/

/-- Write what is read to the output and to files. -/
def copyTo : Nat → List (Octets × Nat) → Work Unit
  | 0, _ => pure ()
  | fuel + 1, targets => do
    match ← ask (.read 0 8192) with
    | .ok [] => pure ()
    | .ok cs => do
      let left ← targets.filterM fun (path, n) => do
        match ← Task.writeAll n cs with
        | some e => do
          blameFile path e
          pure false
        | none => pure true
      if !left.isEmpty then copyTo fuel left
    | .error e => blame ("read error: ".toList ++ e.words.toList)

/-- Write what is read to the output and to files. -/
def tee (args : List Octets) : Work Nat := do
  let (settings, paths) ← readOptions
    [⟨some 'a', "append", .nothing⟩, ⟨some 'i', "ignore-interrupts", .nothing⟩, ⟨some 'p', "p", .nothing⟩,
      ⟨none, "output-error", .maybeWord⟩] args
  let appends := settings.has "append"
  if settings.has "ignore-interrupts" then let _ ← ask (.react 2 .ignore)
  let opened ← paths.mapM fun path => do
    match ← ask (.openFile path { writes := true, creates := true, appends, empties := !appends } 0o666) with
    | .ok n => pure [(path, n)]
    | .error e => do
      blameFile path e
      pure []
  let targets := ("standard output".toList, 1) :: opened.flatten
  copyTo Task.moveLimit targets
  status

end Work

end Diagnostics.Sandbox
