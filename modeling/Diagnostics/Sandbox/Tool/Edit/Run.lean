import Diagnostics.Sandbox.Tool.Edit.Script
import Diagnostics.Sandbox.Tool.Wait

/-!
# Editing lines

A script is carried out for one line after the other. The line is in the space for patterns, another text may be kept
aside, and what is to follow a line waits until the line has been dealt with. Files are read as far as they are needed;
whether a line is the last one shows only in what follows.
-/

namespace Diagnostics.Sandbox

/-- Whether a range has begun, and where it ends if that is a line with a number. -/
inductive RangeState
  | outside
  | inside (stop : Option Nat)

/-- The ranges before the first line; those that begin at line zero have begun. -/
def EditScript.freshRanges (s : EditScript) : Array RangeState :=
  s.rules.map fun r =>
    match r.start, r.stop with
    | some (.number 0), some _ => .inside none
    | _, _ => .outside

/-- What follows a line: a text, or the content of a file. -/
inductive Following
  | text (cs : Octets)
  | file (path : Octets)

/-- Editing under way. -/
structure EditState where
  script : EditScript
  quiet : Bool := false
  separate : Bool := false
  delimiter : Char := '\n'
  width : Nat := 70
  backup : Option Octets := none
  space : Octets := []
  isComplete : Bool := true
  kept : Octets := []
  line : Nat := 0
  replaced : Bool := false
  ranges : Array RangeState
  lastPattern : Option EditPattern := none
  following : List Following := []
  paths : List Octets
  name : Octets := ['-']
  source : Option Nat := none
  buffer : Octets := []
  status : Nat := 0
  opened : List (EditTarget × Nat) := []
  dangling : List EditTarget := []
  readers : List (Octets × List Octets) := []
  edited : Option (List Octets) := none

/-- Editing. -/
abbrev EditWork := StateT EditState Work

/-- How dealing with a line ends: it is printed, or not, or what is left of it is dealt with again, or everything
ends with a status. -/
inductive CycleEnd
  | printed
  | dropped
  | again
  | ended (status : Nat) (prints : Bool)

namespace EditWork

/-- Do what tools do. -/
def work (w : Work α) : EditWork α := liftM w

/-- The status of failures that end everything. -/
def panicStatus : Nat := 4

/-- Complain and end. -/
def panic (text : Octets) : EditWork α := work do
  Work.complain text
  throw panicStatus

/-! ## Writing -/

/-- Write a text; what the script writes to the output goes there even if a file is being edited. -/
def write (t : EditTarget) (isMain : Bool) (cs : Octets) : EditWork Unit := do
  let s ← get
  match t, s.edited with
  | .output, some seen => if isMain then set { s with edited := some (cs :: seen) } else work (Work.print cs)
  | .output, none => work (Work.print cs)
  | .complaints, _ => work (Work.mutter cs)
  | .file _, _ =>
    match s.opened.lookup t with
    | some descriptor => do
      let _ ← work (Task.writeAll descriptor cs)
    | none => pure ()

/-- Write a text and what ends a line, after what was missing at the end of the line before. -/
def emit (t : EditTarget) (isMain : Bool) (cs : Octets) (ends : Bool) : EditWork Unit := do
  let s ← get
  let cs := if s.dangling.contains t then s.delimiter :: cs else cs
  set { s with dangling := if ends then s.dangling.erase t else t :: s.dangling.erase t }
  write t isMain (if ends then cs ++ [s.delimiter] else cs)

/-- Write a text that has its own end. -/
def emitText (cs : Octets) : EditWork Unit := do
  let s ← get
  let cs := if s.dangling.contains .output then s.delimiter :: cs else cs
  set { s with dangling := s.dangling.erase .output }
  write .output true cs

/-- Print the line at hand. -/
def printSpace : EditWork Unit := do
  let s ← get
  emit .output true s.space s.isComplete

/-- Write what follows the line. -/
def writeFollowing : EditWork Unit := do
  let s ← get
  set { s with following := [] }
  s.following.reverse.forM fun f => do
    match f with
    | .text cs => emitText cs
    | .file path =>
      match ← work (Work.contentOf (if path = "/dev/stdin".toList then ['-'] else path)) with
      | .ok [] => pure ()
      | .ok cs => emitText cs
      | .error _ => pure ()

/-! ## Reading -/

/-- End the file at hand, and put what has been written into its place if it is edited there. -/
def closeFile : EditWork Unit := do
  let s ← get
  match s.source with
  | some descriptor => work (Work.closeInput descriptor)
  | none => pure ()
  set { s with source := none, buffer := [] }
  match s.edited, s.backup with
  | some seen, some ending => do
    if !ending.isEmpty then
      let target := if ending.contains '*' then
          ending.flatMap fun c => if c = '*' then (Path.split s.name).getLastD [] else [c]
        else s.name ++ ending
      let _ ← work (Work.ask (.move s.name target))
    let mode : Nat := match ← work (Work.ask (.look s.name true)) with
      | .ok facts => facts.mode
      | .error _ => 0o644
    match ← work (Work.ask (.openFile s.name { writes := true, creates := true, empties := true } mode)) with
    | .ok descriptor => do
      let _ ← work (Task.writeAll descriptor seen.reverse.flatten)
      work (Work.closeInput descriptor)
    | .error e => panic ("couldn't open file ".toList ++ s.name ++ ": ".toList ++ e.words.toList)
    modify fun s => { s with edited := none, dangling := s.dangling.erase .output }
  | _, _ => pure ()

/-- Open the next file that can be read; whether there is one. -/
def openNext : Nat → EditWork Bool
  | 0 => pure false
  | fuel + 1 => do
    let s ← get
    match s.paths with
    | [] => pure false
    | path :: paths => do
      set { s with paths }
      let isEdited := s.backup.isSome && path ≠ ['-']
      let isPlain : Bool := match ← work (Work.ask (.look path true)) with
        | .ok { content := .regular _, .. } => true
        | .ok _ => false
        | .error _ => true
      if isEdited && !isPlain then
        work (Work.complain ("couldn't edit ".toList ++ path ++ ": not a regular file".toList))
        modify fun s => { s with status := panicStatus }
        openNext fuel
      else
        match ← work (Work.openInput path) with
        | .error e => do
          work (Work.complain ("can't read ".toList ++ path ++ ": ".toList ++ e.words.toList))
          modify fun s => { s with status := 2 }
          openNext fuel
        | .ok descriptor => do
          modify fun s => { s with source := some descriptor, name := path, buffer := [] }
          if s.separate then
            modify fun s => { s with
              line := 0, readers := [], ranges := s.script.freshRanges
              edited := if isEdited then some [] else none }
          pure true

/-- So much is read at once. -/
def chunk : Nat := 4096

/-- Read more of the file at hand; whether there was more. -/
def fill : EditWork Bool := do
  let s ← get
  match s.source with
  | none => pure false
  | some descriptor =>
    match ← work (Work.ask (.read descriptor chunk)) with
    | .ok [] => pure false
    | .ok cs => do
      set { s with buffer := s.buffer ++ cs }
      pure true
    | .error e =>
      panic ("read error on ".toList ++ (if s.name = ['-'] then "stdin".toList else s.name) ++ ": ".toList ++
        e.words.toList)

/-- No line comes after the one at hand. -/
def isLast : Nat → EditWork Bool
  | 0 => pure true
  | fuel + 1 => do
    let s ← get
    if !s.buffer.isEmpty then pure false
    else
      if s.source.isSome then
        if ← fill then pure false
        else if s.separate then pure true
        else do
          closeFile
          isLast fuel
      else if s.separate then pure true
      else if ← openNext (s.paths.length + 1) then isLast fuel
      else pure true

/-- The next line, and whether it has its end. -/
def readLine : Nat → List Octets → EditWork (Option (Octets × Bool))
  | 0, _ => pure none
  | fuel + 1, seen => do
    let s ← get
    if s.source.isNone then
      if ← openNext (s.paths.length + 1) then readLine fuel []
      else pure none
    else
      let line := s.buffer.takeWhile (· != s.delimiter)
      match s.buffer.drop line.length with
      | _ :: rest => do
        set { s with buffer := rest }
        pure (some ((line :: seen).reverse.flatten, true))
      | [] => do
        set { s with buffer := [] }
        let seen := if line.isEmpty then seen else line :: seen
        if ← fill then readLine fuel seen
        else if seen.isEmpty then do
          closeFile
          readLine fuel []
        else pure (some (seen.reverse.flatten, false))

/-- Read the next line into the space, or add it to what is there; whether there was one. -/
def readSpace (adds : Bool) : EditWork Bool := do
  writeFollowing
  modify fun s => { s with replaced := false }
  match ← readLine Task.moveLimit [] with
  | none => pure false
  | some (line, isComplete) => do
    modify fun s => { s with
      space := if adds then s.space ++ s.delimiter :: line else line
      isComplete, line := s.line + 1 }
    pure true

/-! ## Lines of rules -/

/-- A pattern, or the one that was used last. -/
def patternOr (p : Option EditPattern) : EditWork EditPattern := do
  match p with
  | some p => do
    modify fun s => { s with lastPattern := some p }
    pure p
  | none =>
    match (← get).lastPattern with
    | some p => pure p
    | none => work (Work.fail "-e expression #1, char 0: no previous regular expression".toList)

/-- The line at hand has an address. -/
def hasAddress : LineAddress → EditWork Bool
  | .number n => return (← get).line = n
  | .step first step => do
    let s ← get
    pure (first ≤ s.line && (s.line - first) % step = 0)
  | .last => isLast Task.moveLimit
  | .pattern p => do
    let p ← patternOr p
    pure (p.pattern.search p.style (← get).space.toArray 0).isSome

/-- A rule is for the line at hand. -/
def selects (i : Nat) (r : EditRule) : EditWork Bool := do
  match r.start, r.stop with
  | none, _ => pure true
  | some a, none => hasAddress a
  | some a, some stop => do
    let s ← get
    let enter (state : RangeState) : EditWork Unit := modify fun s => { s with ranges := s.ranges.set! i state }
    match (s.ranges[i]?).getD .outside with
    | .outside => do
      if !(← hasAddress a) then pure false
      else do
        let upTo (n : Nat) : EditWork Unit := do
          if s.line < n then enter (.inside (some n))
        match stop with
        | .plus n => upTo (s.line + n)
        | .multiple n => if 0 < n then upTo ((s.line / n + 1) * n) else pure ()
        | .at (.number n) => upTo n
        | .at _ => enter (.inside none)
        pure true
    | .inside (some n) => do
      if n ≤ s.line then enter .outside
      if s.line ≤ n then pure true else hasAddress a
    | .inside none => do
      match stop with
      | .at b => if ← hasAddress b then enter .outside
      | _ => pure ()
      pure true

/-! ## Substitutions -/

/-- Cases that are to be changed: of all letters that follow, and of the first one. -/
structure Cases where
  keep : CaseChange := .none
  once : CaseChange := .none

/-- A letter in another case. -/
def CaseChange.apply : CaseChange → Char → Char
  | .none, c => c
  | .upper, c => c.toUpper
  | .lower, c => c.toLower

/-- A text in the cases that are wanted. -/
def Cases.apply (k : Cases) (cs : Octets) : Octets × Cases :=
  match cs with
  | [] => ([], k)
  | c :: rest =>
    let first := if k.once = .none then CaseChange.apply k.keep c else CaseChange.apply k.once c
    (first :: rest.map (CaseChange.apply k.keep), { k with once := .none })

/-- What comes instead of a match. -/
def replaceMatch (pieces : List ReplacementPiece) (text : Array Char) (start : Nat) (r : TextPattern.Reached) :
    Octets :=
  let (parts, _) := pieces.foldl (fun ((seen, k) : List Octets × Cases) piece =>
    match piece with
    | .text cs =>
      let (cs, k) := k.apply cs
      (cs :: seen, k)
    | .group n =>
      let span := if n = 0 then some (start, r.place) else r.groups.lookup n
      let (cs, k) := k.apply ((span.map fun (a, b) => (text.extract a b).toList).getD [])
      (cs :: seen, k)
    | .keep change => (seen, { k with keep := change })
    | .once change => (seen, { k with once := change })) ([], {})
  parts.reverse.flatten

/-- Replace matches from a place on, the `number`-th and, if that is wanted, those after it. `last` is where the match
before ended. The text, or none if nothing was replaced. -/
def replaceFrom (s : Substitution) (p : EditPattern) (text : Array Char) : Nat → Nat → Option Nat → Nat → Bool →
    List Octets → Option Octets
  | 0, _, _, _, _, _ => none
  | fuel + 1, place, last, count, isReplaced, seen =>
    let finish : Option Octets :=
      if isReplaced then some (((text.extract place text.size).toList :: seen).reverse.flatten) else none
    if text.size < place then finish
    else
      match p.pattern.search p.style text place with
      | none => finish
      | some (start, r) =>
        let before := (text.extract place start).toList
        let oneMore := (text.extract start (start + 1)).toList
        if start = r.place && last = some start then
          replaceFrom s p text fuel (start + 1) none count isReplaced (oneMore :: before :: seen)
        else if count + 1 < s.number then
          if start = r.place then
            replaceFrom s p text fuel (start + 1) none (count + 1) isReplaced (oneMore :: before :: seen)
          else
            replaceFrom s p text fuel r.place (some r.place) (count + 1) isReplaced
              ((text.extract start r.place).toList :: before :: seen)
        else
          let instead := replaceMatch s.replacement text start r
          if !s.isGlobal then
            some (((text.extract r.place text.size).toList :: instead :: before :: seen).reverse.flatten)
          else if start = r.place then
            replaceFrom s p text fuel (start + 1) none (count + 1) true (oneMore :: instead :: before :: seen)
          else replaceFrom s p text fuel r.place (some r.place) (count + 1) true (instead :: before :: seen)

/-! ## Showing -/

/-- A character that may not be plain. -/
def shownChar (c : Char) : Octets :=
  if c = '\\' then "\\\\".toList else if isShown c then [c] else escapeOf c

/-- A text in lines of a width, each of which but the last ends with a backslash. -/
def unambiguous (width : Nat) : Nat → List Octets → Octets → Octets
  | _, seen, [] => (['$'] :: seen).reverse.flatten
  | column, seen, c :: rest =>
    let cs := shownChar c
    if 0 < width && width - 1 < column + cs.length then unambiguous width cs.length (cs :: "\\\n".toList :: seen) rest
    else unambiguous width (column + cs.length) (cs :: seen) rest

/-! ## Commands of other programs -/

/-- What a command of the shell prints. -/
def outputOf (command : Octets) : EditWork Octets := work do
  Work.flush
  let t ← get
  let (source, target) : Nat × Nat ← Work.ask .pipe
  let running : Work Nat := do
    let _ ← Work.ask (.duplicate target 1)
    let _ ← Work.ask (.close source)
    let _ ← Work.ask (.close target)
    let e ← Work.become ["sh".toList, "-c".toList, command] t.environment
    throw (if e = .noSuchFile then 127 else 126)
  let child ← Task.start (Task.program running t id)
  let _ ← Work.ask (.close target)
  let content ← Task.readAll source
  let _ ← Work.ask (.close source)
  let _ ← Work.ask (.wait (.process child) true)
  pure (content.toOption.getD [])

/-! ## Carrying out -/

/-- It takes so long to go back in a script, in microseconds. -/
def jumpTime : Nat := 10

/-- The part of the space up to its first line end, and the rest after it, if there is one. -/
def firstLine : EditWork (Octets × Option Octets) := do
  let s ← get
  let line := s.space.takeWhile (· != s.delimiter)
  pure <| match s.space.drop line.length with
  | [] => (line, none)
  | _ :: rest => (line, some rest)

/-- Substitute in the space. -/
def substitute (s : Substitution) : EditWork Unit := do
  let p ← patternOr s.pattern
  let text := (← get).space.toArray
  match replaceFrom s p text (text.size + 2) 0 none 0 false [] with
  | none => pure ()
  | some cs => do
    modify fun st => { st with space := cs, replaced := true }
    if s.evaluates then
      let out ← outputOf cs
      modify fun st => { st with space := Work.bare out }
    if s.prints then printSpace
    match s.target with
    | some t => do
      let st ← get
      emit t false st.space st.isComplete
    | none => pure ()

/-- Carry out an action that leads on to the next rule. -/
def act : EditAction → EditWork Unit
  | .insertText cs => do
    if !cs.isEmpty then emit .output true cs.dropLast true
  | .appendText cs => modify fun s => { s with following := .text cs :: s.following }
  | .evaluate [] => do
    let out ← outputOf (← get).space
    modify fun s => { s with space := Work.bare out }
  | .evaluate command => do emitText (← outputOf command)
  | .fileName => do emit .output true (← get).name true
  | .get => modify fun s => { s with space := s.kept }
  | .getMore => modify fun s => { s with space := s.space ++ s.delimiter :: s.kept }
  | .hold => modify fun s => { s with kept := s.space }
  | .holdMore => modify fun s => { s with kept := s.kept ++ s.delimiter :: s.space }
  | .exchange => modify fun s => { s with space := s.kept, kept := s.space }
  | .list width => do
    let s ← get
    emit .output true (unambiguous (width.getD s.width) 0 [] s.space) true
  | .print => printSpace
  | .printLine => do
    let (line, rest) ← firstLine
    emit .output true line (rest.isSome || (← get).isComplete)
  | .number => do emit .output true (toString (← get).line).toList true
  | .readFile path => modify fun s => { s with following := .file path :: s.following }
  | .readLine path => do
    let s ← get
    let lines ← match s.readers.lookup path with
      | some lines => pure lines
      | none => do
        let content ← work (Work.contentOf (if path = "/dev/stdin".toList then ['-'] else path))
        pure (Work.linesOf (content.toOption.getD []))
    let following := match lines with
      | line :: _ => .text line :: s.following
      | [] => s.following
    set { s with following, readers := (path, lines.drop 1) :: s.readers.filter (·.1 ≠ path) }
  | .substitute s => substitute s
  | .translate pairs => modify fun s =>
    { s with space := s.space.map fun c => (pairs.reverse.lookup c).getD c }
  | .write t => do
    let s ← get
    emit t false s.space s.isComplete
  | .writeLine t => do
    let (line, rest) ← firstLine
    emit t false line (rest.isSome || (← get).isComplete)
  | .empty => modify fun s => { s with space := [] }
  | _ => pure ()

/-- Carry out rules from a place on. -/
def run : Nat → Nat → EditWork CycleEnd
  | 0, _ => pure (.ended 0 false)
  | fuel + 1, i => do
    let s ← get
    match s.script.rules[i]? with
    | none => pure .printed
    | some r =>
      if (← selects i r) == r.negated then
        match r.action with
        | .block stop => run fuel stop
        | _ => run fuel (i + 1)
      else
        match r.action with
        | .jump condition label => do
          let s ← get
          let goes := match condition with
            | .always => true
            | .replaced => s.replaced
            | .notReplaced => !s.replaced
          if condition ≠ .always then set { s with replaced := false }
          if !goes then run fuel (i + 1)
          else if label.isEmpty then pure .printed
          else
            let target := (s.script.labels.lookup label).getD s.script.rules.size
            if target ≤ i then
              let _ ← work (Work.ask (.work jumpTime))
            run fuel target
        | .changeText cs => do
          let isOver := match r.stop, (← get).ranges[i]? with
            | some _, some (.inside _) => r.negated
            | _, _ => true
          if isOver then emitText cs
          pure .dropped
        | .delete => pure .dropped
        | .deleteLine => do
          match (← firstLine).2 with
          | none => pure .dropped
          | some rest => do
            modify fun s => { s with space := rest }
            pure .again
        | .next => do
          if ← isLast Task.moveLimit then pure .printed
          else
            unless (← get).quiet do printSpace
            if ← readSpace false then run fuel (i + 1) else pure .dropped
        | .nextMore => do
          if ← isLast Task.moveLimit then pure .printed
          else if ← readSpace true then run fuel (i + 1)
          else pure .printed
        | .quit status => pure (.ended status true)
        | .leave status => pure (.ended status false)
        | action => do
          act action
          run fuel (i + 1)

/-- Deal with one line after the other; the status. With `rereads` the line at hand is dealt with again. -/
def cycles : Nat → Bool → EditWork Nat
  | 0, _ => pure 0
  | fuel + 1, rereads => do
    let hasLine ← if rereads then pure true else readSpace false
    if !hasLine then return (← get).status
    else
      match ← run Task.moveLimit 0 with
      | .printed => do
        unless (← get).quiet do printSpace
        writeFollowing
        cycles fuel false
      | .dropped => do
        writeFollowing
        cycles fuel false
      | .again => do
        writeFollowing
        cycles fuel true
      | .ended status prints => do
        if prints then
          unless (← get).quiet do printSpace
          writeFollowing
        closeFile
        let s ← get
        pure (if status ≠ 0 then status else s.status)

/-- Open the files that the script writes to, and deal with all lines. -/
def whole : EditWork Nat := do
  (← get).script.targets.eraseDups.forM fun t => do
    match t with
    | .file path =>
      match ← work (Work.ask (.openFile path { writes := true, creates := true, empties := true } 0o666)) with
      | .ok descriptor => modify fun s => { s with opened := (t, descriptor) :: s.opened }
      | .error e => panic ("couldn't open file ".toList ++ path ++ ": ".toList ++ e.words.toList)
    | _ => pure ()
  cycles Task.moveLimit false

end EditWork

end Diagnostics.Sandbox
