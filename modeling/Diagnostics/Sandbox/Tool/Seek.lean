import Diagnostics.Sandbox.Tool.Environment
import Diagnostics.Sandbox.Tool.Facts
import Diagnostics.Sandbox.Tool.Seek.Expression

/-!
# Seeking files

The tool that goes through directories and tests what it finds there. A directory comes before what is in it, unless
that is to come first.
-/

namespace Diagnostics.Sandbox

/-- A file that has been met: its path, the start that it was found from, how deep it is, and what is known of it. -/
structure SeekFile where
  path : Octets
  start : Octets
  depth : Nat
  facts : FileFacts

/-- Seeking: whether the present directory is left out, the files that wait for commands, and the files that are
written. -/
structure SeekState where
  pruned : Bool := false
  waiting : List (Nat × SeekCommand × List Octets) := []
  opened : List (Octets × Nat) := []

/-- Seeking is a part of what a tool does, and may end early. -/
abbrev SeekWork := ExceptT Unit (StateT SeekState Work)

namespace SeekFile

/-- The name of the file. -/
def name (f : SeekFile) : Octets := lastName f.path

/-- The path without the start that it was found from. -/
def below (f : SeekFile) : Octets := (f.path.drop f.start.length).dropWhile (· == '/')

/-- The file is a directory. -/
def isDirectory (f : SeekFile) : Bool :=
  match f.facts.content with
  | .directory .. => true
  | _ => false

end SeekFile

/-- The letter of the kind of a file; a plain file has one as well. -/
def seekLetter (c : Content) : Char := if kindLetter c = '-' then 'f' else kindLetter c

namespace SeekWork

/-- Do what tools do. -/
def work (w : Work α) : SeekWork α := liftM w

/-! ## Tests -/

/-- The time now in microseconds. -/
def now : SeekWork Nat := work (Work.ask .clock)

/-- A file passes a test. -/
def passes (follows : Bool) (f : SeekFile) (t : SeekTest) : SeekWork Bool := do
  let fits (pattern : List PatternElement) (folds : Bool) (cs : Octets) : Bool :=
    patternMatches pattern (if folds then cs.map Char.toLower else cs)
  match t with
  | .name pattern folds => pure (fits pattern folds f.name)
  | .path pattern folds => pure (fits pattern folds f.path)
  | .linkName pattern folds =>
    match f.facts.content with
    | .link target => pure (fits pattern folds target)
    | _ => pure false
  | .pattern style p => pure ((p.matchAtStart style f.path.toArray).any (·.place = f.path.length))
  | .kind letters behind => do
    let letter ← if !behind then pure (seekLetter f.facts.content)
      else
        match ← work (Work.ask (.look f.path (!follows))) with
        | .ok g => pure (seekLetter g.content)
        | .error _ => pure 'l'
    pure (letters.contains letter)
  | .size n unit => pure (n.holds ((f.facts.size + unit - 1) / unit))
  | .age n unit => do pure (n.holds (((← now) - f.facts.changed) / unit))
  | .empty =>
    match f.facts.content with
    | .directory .. => do
      match ← work (Work.ask (.names f.path)) with
      | .ok names => pure names.isEmpty
      | .error _ => pure false
    | .regular _ => pure (f.facts.size = 0)
    | _ => pure false
  | .newer time => pure (time < f.facts.changed)
  | .mode how bits =>
    let mode := f.facts.mode
    pure (match how with
      | .same => mode == bits
      | .all => mode &&& bits == bits
      | .any => mode &&& bits != 0)
  | .names n => pure (n.holds f.facts.names)
  | .number n => pure (n.holds (f.facts.id + 1000))
  | .file id => pure (f.facts.id == id)
  | .owner n => pure (n.holds 0)
  | .runs => pure (f.isDirectory || f.facts.mode &&& 0o111 != 0)
  | .always b => pure b

/-! ## Formats -/

/-- What stands for a letter in a format. -/
def directive (f : SeekFile) : Char → Option Octets
  | 'p' => some f.path
  | 'f' => some f.name
  | 'h' => some (if f.path.contains '/' then (beforeLast f.path) else ['.'])
  | 'P' => some f.below
  | 'H' => some f.start
  | 's' => some (toString f.facts.size).toList
  | 'm' => some (Nat.toDigits 8 f.facts.mode)
  | 'M' => some (kindLetter f.facts.content :: permissionLetters f.facts.mode)
  | 'y' => some [seekLetter f.facts.content]
  | 'Y' => some [seekLetter f.facts.content]
  | 'd' => some (toString f.depth).toList
  | 'l' => some (match f.facts.content with
    | .link target => target
    | _ => [])
  | 'n' => some (toString f.facts.names).toList
  | 'i' => some (toString (f.facts.id + 1000)).toList
  | 'u' => some "root".toList
  | 'g' => some "root".toList
  | 'U' => some ['0']
  | 'G' => some ['0']
  | 'k' => some (toString (blocksOf f.facts)).toList
  | 'b' => some (toString (2 * blocksOf f.facts)).toList
  | '%' => some ['%']
  | _ => none

/-- Print a format for a file. -/
def printFormat (f : SeekFile) : Nat → Octets → Work Unit
  | 0, _ => pure ()
  | _, [] => pure ()
  | fuel + 1, '\\' :: c :: rest => do
    if c = 'c' then pure ()
    else if isOctal c then
      let (d, rest) := takeOctet 8 3 (c :: rest)
      Work.print [d]
      printFormat f fuel rest
    else
      match if c = 'e' then none else letterEscape? c with
      | some d => Work.print [d]
      | none => do
        Work.complain ("warning: unrecognized escape \x60\\".toList ++ [c, '\''])
        Work.print ['\\', c]
      printFormat f fuel rest
  | fuel + 1, '%' :: rest => do
    let (d, after) := ({ letter := 's' } : Slot).flags rest
    let digits := after.takeWhile Char.isDigit
    let d := { d with width := (takeNumeral 10 0 digits).1 }
    match after.drop digits.length with
    | c :: rest => do
      match directive f c with
      | some cs => Work.print (d.pad cs)
      | none => do
        Work.complain ("warning: unrecognized format directive \x60%".toList ++ [c, '\''])
        Work.print ['%', c]
      printFormat f fuel rest
    | [] => Work.print ['%']
  | fuel + 1, c :: rest => do
    let plain := (c :: rest).takeWhile fun c => c != '\\' && c != '%'
    Work.print plain
    printFormat f fuel ((c :: rest).drop plain.length)

/-! ## Commands -/

/-- Run a command in a directory; it ended well. -/
def runIn (directory : Option Octets) (words : List Octets) : Work Bool := do
  Work.flush
  let t ← get
  let running : Work Nat := do
    match directory with
    | some path => do
      let _ ← Work.ask (.changeDirectory path)
    | none => pure ()
    let e ← Work.become words t.environment
    Work.complain (quoteWord (words.headD []) ++ ": ".toList ++ e.words.toList)
    pure 1
  let child ← Task.start (Task.program running t id)
  match ← Work.ask (.wait (.process child) true) with
  | .ok (some (_, .exited 0)) => pure true
  | _ => pure false

/-- A line of the input. -/
def answerLine : Nat → Octets → Work Octets
  | 0, seen => pure seen.reverse
  | fuel + 1, seen => do
    match ← Work.ask (.read 0 1) with
    | .ok [c] => if c = '\n' then pure seen.reverse else answerLine fuel (c :: seen)
    | _ => pure seen.reverse

/-- Run a command for a file. -/
def run (f : SeekFile) (c : SeekCommand) : SeekWork Bool := do
  let word := if c.inside then "./".toList ++ f.name else f.path
  if c.together then
    modify fun s =>
      let before := (s.waiting.find? (·.1 = c.number)).elim [] (·.2.2)
      { s with waiting := (c.number, c, word :: before) :: s.waiting.filter (·.1 ≠ c.number) }
    pure true
  else
    let words := c.words.map fun w => Work.substituteSign "\x7b\x7d".toList word (w.length + 1) w
    let agreed ← if !c.asks then pure true
      else do
        work Work.flush
        work (Work.mutter ("< ".toList ++ words.headD [] ++ " ... ".toList ++ f.path ++ " > ? ".toList))
        let answer ← work (answerLine Task.moveLimit [])
        pure (answer.head?.any fun c => c = 'y' || c = 'Y')
    if agreed then work (runIn (if c.inside then some (beforeLast f.path) else none) words) else pure false

/-- Run the commands that wait for more files. -/
def runWaiting : SeekWork Unit := do
  let waiting := (← get).waiting
  modify fun s => { s with waiting := [] }
  waiting.reverse.forM fun (_, c, words) => do
    if !(← work (runIn none (c.words ++ words.reverse))) then
      work (modify fun t => { t with status := 1 })

/-! ## Seeking -/

/-- Print to a file. -/
def printTo (path cs : Octets) : SeekWork Unit := do
  match (← get).opened.lookup path with
  | some n => do
    let _ ← work (Task.writeAll n cs)
  | none => pure ()

/-- Carry out an action for a file. -/
def act (f : SeekFile) (a : SeekAction) : SeekWork Bool := do
  match a with
  | .print ending => do
    work (Work.print (f.path ++ [ending]))
    pure true
  | .printTo path ending => do
    printTo path (f.path ++ [ending])
    pure true
  | .format cs => do
    work (printFormat f (cs.length + 1) cs)
    pure true
  | .run c => run f c
  | .delete => do
    if f.path = ['.'] then pure true
    else
      let done : Except OsError Unit ← work <|
        if f.isDirectory then Work.ask (.removeDirectory f.path) else Work.ask (.unlink f.path)
      match done with
      | .ok _ => pure true
      | .error e => do
        work (Work.blame ("cannot delete ".toList ++ quoteName f.path ++ ": ".toList ++ e.words.toList))
        pure false
  | .prune => do
    modify fun s => { s with pruned := true }
    pure true
  | .quit => do
    runWaiting
    throw ()

/-- The value of an expression for a file. -/
def eval (follows : Bool) (f : SeekFile) : SeekExpr → SeekWork Bool
  | .test t => passes follows f t
  | .action a => act f a
  | .both a b => do
    if ← eval follows f a then eval follows f b else pure false
  | .either a b => do
    if ← eval follows f a then pure true else eval follows f b
  | .after a b => do
    let _ ← eval follows f a
    eval follows f b
  | .opposite e => return !(← eval follows f e)

/-- Go through a file and what is in it. -/
def visit (w : SeekWish) (follows : Bool) (start : Octets) : Nat → Nat → Bool → Octets → SeekWork Unit
  | 0, _, _, _ => pure ()
  | fuel + 1, depth, followsHere, path => do
    let first : Except OsError FileFacts ← work (Work.ask (.look path followsHere))
    let looked : Except OsError FileFacts ← match first with
      | .error e => if followsHere && e = .noSuchFile then work (Work.ask (.look path false)) else pure (.error e)
      | first => pure first
    match looked with
    | .error e => work (Work.blame (quoteName path ++ ": ".toList ++ e.words.toList))
    | .ok facts => do
      let f : SeekFile := { path, start, depth, facts }
      modify fun s => { s with pruned := false }
      let isSeen := w.least ≤ depth
      if isSeen && !w.childrenFirst then
        let _ ← eval follows f w.expr
      let pruned := (← get).pruned && !w.childrenFirst
      if f.isDirectory && !pruned && w.most.all (depth < ·) then
        match ← work (Work.ask (.names path)) with
        | .ok names => names.forM fun name => visit w follows start fuel (depth + 1) follows (below path name)
        | .error e => work (Work.blame (quoteName path ++ ": ".toList ++ e.words.toList))
      if isSeen && w.childrenFirst then
        let _ ← eval follows f w.expr

/-- Files that an expression writes. -/
def targetsOf : SeekExpr → List Octets
  | .action (.printTo path _) => [path]
  | .both a b => targetsOf a ++ targetsOf b
  | .either a b => targetsOf a ++ targetsOf b
  | .after a b => targetsOf a ++ targetsOf b
  | .opposite e => targetsOf e
  | _ => []

end SeekWork

namespace Work

/-- Take the options that come first: whether links are followed everywhere, and whether they are at the starts. -/
def seekOptions : List Octets → Bool → Bool → Bool × Bool × List Octets
  | word :: rest, everywhere, atStarts =>
    if word = "-L".toList then seekOptions rest true true
    else if word = "-H".toList then seekOptions rest false true
    else if word = "-P".toList then seekOptions rest false false
    else if "-O".toList.isPrefixOf word then seekOptions rest everywhere atStarts
    else (everywhere, atStarts, word :: rest)
  | [], everywhere, atStarts => (everywhere, atStarts, [])

/-- The word begins an expression. -/
def beginsSeekExpr (word : Octets) : Bool :=
  match word with
  | '-' :: _ :: _ => true
  | ['('] => true
  | [')'] => true
  | ['!'] => true
  | [','] => true
  | _ => false

/-- Seek files. -/
def find (args : List Octets) : Work Nat := do
  let (follows, atStarts, words) := seekOptions args false false
  let paths := words.takeWhile (!beginsSeekExpr ·)
  let follows := follows || words.contains "-follow".toList
  let rest := (words.drop paths.length).filter (· ≠ "-follow".toList)
  let (w, _) ← SeekRead.wish.run { rest }
  let opened ← (SeekWork.targetsOf w.expr).mapM fun path => do
    match ← ask (.openFile path { writes := true, creates := true, empties := true } 0o666) with
    | .ok n => pure (path, n)
    | .error e => fail (quoteName path ++ ": ".toList ++ e.words.toList)
  let seeking : SeekWork Unit := do
    (if paths.isEmpty then [['.']] else paths).forM fun path =>
      SeekWork.visit w follows path treeDepth 0 (follows || atStarts) path
    SeekWork.runWaiting
  let _ ← StateT.run (ExceptT.run seeking) { opened }
  status

end Work

end Diagnostics.Sandbox
