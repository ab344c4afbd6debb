import Diagnostics.Sandbox.Shell.Option

/-!
# Reading lines and options

Commands of the shell that read a line into variables, and that go through options one by one.
-/

namespace Diagnostics.Sandbox

/-! ## Lines -/

/-- A character of a line, and whether a backslash stood before it. -/
abbrev LineCell := Char × Bool

/-- A line that is being taken apart: the fields that are done, latest first; the one at hand, latest character
first; what might be dropped at its end; and whether the last sign was a blank. -/
structure LineFields where
  done : List Octets := []
  current : Octets := []
  spare : Option Nat := none
  afterBlank : Bool := false

/-- Take a line apart into at most so many fields. The last field takes all that is left, but for blanks at its end,
and for one sign that is no blank if nothing else follows it. -/
def splitLine (signs : Octets) : Nat → LineFields → List LineCell → List Octets
  | _, f, [] =>
    let last := match f.spare with
      | some n => f.current.drop (f.current.length - n)
      | none => f.current
    (if last.isEmpty then f.done else last.reverse :: f.done).reverse
  | 0, f, (c, true) :: rest => splitLine signs 0 { f with current := c :: f.current, afterBlank := false } rest
  | 0, f, (c, false) :: rest =>
    let isSign := signs.contains c
    let isBlank := isSign && blankSigns.contains c
    let f :=
      if isBlank then { f with spare := some (f.spare.getD f.current.length) }
      else { f with spare := if isSign && f.afterBlank then f.spare else none, afterBlank := false }
    splitLine signs 0 { f with current := c :: f.current } rest
  | left + 1, f, (c, true) :: rest =>
    splitLine signs (left + 1) { f with current := c :: f.current, afterBlank := false } rest
  | left + 1, f, (c, false) :: rest =>
    let isSign := signs.contains c
    let isBlank := isSign && blankSigns.contains c
    if f.afterBlank && isBlank then splitLine signs (left + 1) f rest
    else if f.afterBlank && isSign then splitLine signs (left + 1) { f with afterBlank := false } rest
    else if isBlank && f.current.isEmpty then splitLine signs (left + 1) { f with afterBlank := false } rest
    else if isSign then
      if left = 0 then
        splitLine signs 0
          { f with spare := some f.current.length, current := c :: f.current, afterBlank := isBlank } rest
      else splitLine signs left { done := f.current.reverse :: f.done, afterBlank := isBlank } rest
    else splitLine signs (left + 1) { f with current := c :: f.current, afterBlank := false } rest

namespace Act

/-- Read a line octet by octet; the flag tells that it was ended by a newline. -/
def lineCells (isRaw : Bool) : Nat → List LineCell → Act (List LineCell × Bool)
  | 0, seen => pure (seen.reverse, false)
  | fuel + 1, seen => do
    match ← ask (.read 0 1) with
    | .error e =>
      if e = interruptedCall && (← get).pending.isEmpty then lineCells isRaw fuel seen
      else pure (seen.reverse, false)
    | .ok [] => pure (seen.reverse, false)
    | .ok (c :: _) =>
      if c = '\x00' then lineCells isRaw fuel seen
      else if c = '\n' then pure (seen.reverse, true)
      else if c = '\\' && !isRaw then
        match ← ask (.read 0 1) with
        | .ok (d :: _) => lineCells isRaw fuel (if d = '\n' then seen else (d, true) :: seen)
        | _ => pure (seen.reverse, false)
      else lineCells isRaw fuel ((c, false) :: seen)

/-- Read a line into variables. -/
def readCommand (args : List Octets) : Act Nat := do
  let (options, names) ← takeOptions "p:r" args
  if names.isEmpty then fail "arg count"
  let (cells, isWhole) ← lineCells (options.any (·.1 == 'r')) endless []
  let fields := splitLine (splittingSigns (← get)) names.length {} cells
  (names.zipIdx).forM fun (name, i) => assignChecked name (fields.getD i []) false
  pure (if isWhole then 0 else 1)

/-! ## Options one by one -/

/-- Say something without the name of the shell. -/
def mutter (text : Octets) : Act Unit := do
  let _ ← write 2 (text ++ ['\n'])

/-- Go on to the next option of the words, of which some are allowed. -/
def nextOption (allowed result : Octets) (words : List Octets) : Act Nat := do
  let (index, offset) := (← get).optionPlace
  let quiet := allowed.head? = some ':'
  let leave (index : Nat) (offset : Option Nat) (c : Char) (status : Nat) : Act Nat := do
    assign "OPTIND".toList (numeral index) false
    modify fun s => { s with optionPlace := (index, offset) }
    assignChecked result [c] false
    modify fun s => { s with optionPlace := (index, offset) }
    pure status
  let inWord : Option Octets :=
    match offset with
    | none => none
    | some n =>
      if index ≤ 1 then none
      else
        let word := words.getD (index - 2) []
        if word.length ≤ n then none else some (word.drop n)
  let fresh : Option (Octets × Nat) :=
    match inWord with
    | some cs => some (cs, index)
    | none =>
      match words[index - 1]? with
      | some ('-' :: c :: cs) => if c = '-' && cs.isEmpty then none else some (c :: cs, index + 1)
      | _ => none
  match fresh with
  | none =>
    let isEnd := inWord.isNone && words[index - 1]? = some ['-', '-']
    leave (if isEnd then index + 1 else index) none '?' 1
  | some ([], index) => leave index none '?' 1
  | some (c :: rest, index) =>
    let word := words.getD (index - 2) []
    let place : Option Nat := some (word.length - rest.length)
    let known := if quiet then allowed.drop 1 else allowed
    match if c = ':' then none else optionKind? known c with
    | none =>
      if quiet then assign "OPTARG".toList [c] false
      else
        mutter ("Illegal option -".toList ++ [c])
        unassign "OPTARG".toList
      leave index place '?' 0
    | some false =>
      assign "OPTARG".toList [] false
      leave index place c 0
    | some true =>
      if !rest.isEmpty then
        assign "OPTARG".toList rest false
        leave index none c 0
      else
        match words[index - 1]? with
        | some value =>
          assign "OPTARG".toList value false
          leave (index + 1) none c 0
        | none =>
          if quiet then
            assign "OPTARG".toList [c] false
            leave index none ':' 0
          else
            mutter ("No arg for -".toList ++ [c] ++ " option".toList)
            unassign "OPTARG".toList
            leave index none '?' 0

/-- Go through options. -/
def getoptsCommand (args : List Octets) : Act Nat := do
  match args with
  | allowed :: result :: words => do
    let words ← if words.isEmpty then pure (← get).parameters else pure words
    if words.length + 1 < (← get).optionPlace.1 then modify fun s => { s with optionPlace := (1, none) }
    nextOption allowed result words
  | _ => fail "Usage: getopts optstring var [arg...]"

end Act

end Diagnostics.Sandbox
