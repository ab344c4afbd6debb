import Diagnostics.Sandbox.Shell.Pattern
import Diagnostics.Sandbox.Tool.Files
import Diagnostics.Sandbox.Tool.TextPattern
import Diagnostics.Sandbox.Tool.Wait

/-!
# What is sought

Files are sought by expressions: tests of a file, and actions, put together by words. An expression without an action
prints what satisfies it.
-/

namespace Diagnostics.Sandbox

/-! ## Expressions -/

/-- A number that is wanted, or a bound for it. -/
inductive Wanted
  | exactly (n : Nat)
  | more (n : Nat)
  | less (n : Nat)

/-- The number is as wanted. -/
def Wanted.holds : Wanted → Nat → Bool
  | .exactly n, m => m == n
  | .more n, m => n < m
  | .less n, m => m < n

/-- How permissions are compared: they are the same, they hold all of some, or they hold any of some. -/
inductive ModeTest
  | same
  | all
  | any
  deriving DecidableEq

/-- A test of a file. -/
inductive SeekTest
  | name (pattern : List PatternElement) (folds : Bool)
  | path (pattern : List PatternElement) (folds : Bool)
  | linkName (pattern : List PatternElement) (folds : Bool)
  | pattern (style : PatternStyle) (p : TextPattern)
  | kind (letters : Octets) (behind : Bool)
  | size (n : Wanted) (unit : Nat)
  | age (n : Wanted) (unit : Nat)
  | empty
  | newer (time : Nat)
  | mode (how : ModeTest) (bits : Nat)
  | names (n : Wanted)
  | number (n : Wanted)
  | file (id : NodeId)
  | owner (n : Wanted)
  | runs
  | always (b : Bool)

/-- How a command is run for a file: in the directory at hand or in that of the file, once for many files, and whether
it is asked about. -/
structure SeekCommand where
  words : List Octets
  inside : Bool := false
  together : Bool := false
  asks : Bool := false
  number : Nat := 0

/-- What is done with a file. -/
inductive SeekAction
  | print (ending : Char)
  | printTo (path : Octets) (ending : Char)
  | format (cs : Octets)
  | run (c : SeekCommand)
  | delete
  | prune
  | quit

/-- An expression. -/
inductive SeekExpr
  | test (t : SeekTest)
  | action (a : SeekAction)
  | both (a b : SeekExpr)
  | either (a b : SeekExpr)
  | after (a b : SeekExpr)
  | opposite (e : SeekExpr)

/-- What is sought, and where. -/
structure SeekWish where
  expr : SeekExpr
  childrenFirst : Bool := false
  least : Nat := 0
  most : Option Nat := none

/-! ## Reading -/

/-- Reading an expression: what is left, and what has been met. -/
structure SeekReading where
  rest : List Octets
  childrenFirst : Bool := false
  least : Nat := 0
  most : Option Nat := none
  acts : Bool := false
  commands : Nat := 0
  extended : Bool := false

/-- Reading an expression is a part of what a tool does. -/
abbrev SeekRead := StateT SeekReading Work

namespace SeekRead

/-- The next word. -/
def peek : SeekRead (Option Octets) := return (← get).rest.head?

/-- Go past a word. -/
def advance : SeekRead Unit := modify fun s => { s with rest := s.rest.drop 1 }

/-- The argument of a word. -/
def argument (word : Octets) : SeekRead Octets := do
  match ← peek with
  | some a => do
    advance
    pure a
  | none => Work.fail ("missing argument to \x60".toList ++ word ++ ['\''])

/-- The argument of a word is wrong. -/
def badArgument (word a : Octets) : SeekRead α :=
  Work.fail ("invalid argument \x60".toList ++ a ++ "' to \x60".toList ++ word ++ ['\''])

/-- A number that is wanted. -/
def wanted? (cs : Octets) : Option Wanted :=
  let (make, digits) : (Nat → Wanted) × Octets := match cs with
    | '+' :: rest => (.more, rest)
    | '-' :: rest => (.less, rest)
    | rest => (.exactly, rest)
  if digits.isEmpty || !digits.all Char.isDigit then none else some (make (takeNumeral 10 0 digits).1)

/-- The number that a word wants. -/
def wanted (word : Octets) : SeekRead Wanted := do
  let a ← argument word
  match wanted? a with
  | some w => pure w
  | none => badArgument word a

/-- How deep is looked. -/
def depth (word : Octets) : SeekRead Nat := do
  let a ← argument word
  if a.isEmpty || !a.all Char.isDigit then
    Work.fail ("Expected a positive decimal integer argument to ".toList ++ word ++ ", but got ".toList ++ quoteWord a)
  else pure (takeNumeral 10 0 a).1

/-- A pattern for names, in either case if that does not matter. -/
def namePattern (folds : Bool) (cs : Octets) : List PatternElement :=
  patternOf (cellsOf false (if folds then cs.map Char.toLower else cs))

/-- Units of sizes. -/
def sizeUnits : List (Char × Nat) :=
  [('b', 512), ('c', 1), ('w', 2), ('k', 1024), ('M', 1048576), ('G', 1073741824)]

/-- The size that is wanted. -/
def size : SeekRead SeekTest := do
  let a ← argument "-size".toList
  let (digits, unit) := match a.getLast? with
    | some c => if c.isDigit then (a, some 512) else (a.dropLast, sizeUnits.lookup c)
    | none => (a, none)
  match unit, wanted? digits with
  | some unit, some w => pure (.size w unit)
  | none, _ => Work.fail ("invalid -size type \x60".toList ++ a.drop (a.length - 1) ++ ['\''])
  | _, none => Work.fail ("Invalid argument \x60".toList ++ a ++ "' to -size".toList)

/-- Facts of a file that is named. -/
def facts (path : Octets) : SeekRead FileFacts := do
  match ← Work.ask (.look path true) with
  | .ok f => pure f
  | .error e => Work.fail (quoteWord path ++ ": ".toList ++ e.words.toList)

/-- The permissions that are wanted. -/
def mode : SeekRead SeekTest := do
  let a ← argument "-perm".toList
  let (how, text) : ModeTest × Octets := match a with
    | '-' :: rest => (.all, rest)
    | '/' :: rest => (.any, rest)
    | rest => (.same, rest)
  match Work.modeOf? text 0 0 false with
  | some bits => pure (if how = .any && bits = 0 then .always true else .mode how bits)
  | none => Work.fail ("invalid mode ".toList ++ quoteWord a)

/-- Kinds of files. -/
def kind (word : Octets) (behind : Bool) : SeekRead SeekTest := do
  let a ← argument word
  let parts := ((String.ofList a).splitOn ",").map String.toList
  match parts.find? fun part => !(part.length = 1 && part.all "bcdpflsD".toList.contains) with
  | some bad =>
    if bad.length ≤ 1 || parts.length = 1 && bad.isEmpty then
      Work.fail ("Unknown argument to ".toList ++ word ++ ": ".toList ++ bad)
    else if "bcdpflsD".toList.contains (bad.headD ' ') then
      Work.fail ("Must separate multiple arguments to ".toList ++ word ++ " using: ','".toList)
    else Work.fail ("Unknown argument to ".toList ++ word ++ ": ".toList ++ bad.take 1)
  | none => pure (.kind parts.flatten behind)

/-- Signs that a pattern has without a backslash, as they are written with one. -/
def withBackslashes : Nat → Octets → Octets
  | 0, cs => cs
  | _, [] => []
  | fuel + 1, '\\' :: c :: rest => '\\' :: c :: withBackslashes fuel rest
  | fuel + 1, '[' :: rest =>
    let first := rest.takeWhile (· == '^')
    let more := rest.drop first.length
    let head := more.take 1
    let body := (more.drop 1).takeWhile (· != ']')
    '[' :: first ++ head ++ body ++ withBackslashes fuel (more.drop (1 + body.length))
  | fuel + 1, c :: rest =>
    if c = '+' || c = '?' then '\\' :: c :: withBackslashes fuel rest else c :: withBackslashes fuel rest

/-- A pattern for whole paths. -/
def pathPattern (word : Octets) (folds : Bool) : SeekRead SeekTest := do
  let a ← argument word
  let style : PatternStyle := { extended := (← get).extended, folds }
  match TextPattern.ofText style (if style.extended then a else withBackslashes (a.length + 1) a) with
  | .ok p => pure (.pattern style p)
  | .error f => Work.fail ("failed to compile regular expression ".toList ++ quoteWord a ++ ": ".toList ++ f.message.toList)

/-- A user or a group. -/
def owner (word : Octets) (what : String) : SeekRead SeekTest := do
  let a ← argument word
  if a = "root".toList then pure (.owner (.exactly 0))
  else
    match wanted? a with
    | some w => pure (.owner w)
    | none => Work.fail (quoteWord a ++ " is not the name of ".toList ++ what.toList)

/-- The words of a command up to its end, and whether it is for many files at once. -/
def commandWords (word : Octets) : Nat → List Octets → SeekRead (List Octets × Bool)
  | 0, _ => Work.fail ("missing argument to \x60".toList ++ word ++ ['\''])
  | fuel + 1, seen => do
    let a ← argument word
    if a = [';'] then
      if seen.isEmpty then badArgument word a else pure (seen.reverse, false)
    else if a = ['+'] && seen.head? = some "\x7b\x7d".toList then pure ((seen.drop 1).reverse, true)
    else commandWords word fuel (a :: seen)

/-- A command. -/
def command (word : Octets) (inside asks : Bool) : SeekRead SeekExpr := do
  let (words, together) ← commandWords word ((← get).rest.length + 1) []
  modify fun s => { s with acts := true, commands := s.commands + 1 }
  pure (.action (.run { words, inside, together, asks, number := (← get).commands }))

/-- An action. -/
def action (a : SeekAction) : SeekRead SeekExpr := do
  modify fun s => { s with acts := true }
  pure (.action a)

/-- So many seconds are a day. -/
def day : Nat := 86400

/-- What a word of an expression means. -/
def meaning (word : Octets) : SeekRead SeekExpr := do
  let yes : SeekExpr := .test (.always true)
  match String.ofList word with
  | "-name" => return .test (.name (namePattern false (← argument word)) false)
  | "-iname" => return .test (.name (namePattern true (← argument word)) true)
  | "-path" => return .test (.path (namePattern false (← argument word)) false)
  | "-wholename" => return .test (.path (namePattern false (← argument word)) false)
  | "-ipath" => return .test (.path (namePattern true (← argument word)) true)
  | "-iwholename" => return .test (.path (namePattern true (← argument word)) true)
  | "-lname" => return .test (.linkName (namePattern false (← argument word)) false)
  | "-ilname" => return .test (.linkName (namePattern true (← argument word)) true)
  | "-regex" => return .test (← pathPattern word false)
  | "-iregex" => return .test (← pathPattern word true)
  | "-regextype" => do
    let a ← argument word
    modify fun s => { s with extended := !(a = "emacs".toList || a = "posix-basic".toList || a = "grep".toList) }
    pure yes
  | "-type" => return .test (← kind word false)
  | "-xtype" => return .test (← kind word true)
  | "-size" => return .test (← size)
  | "-empty" => pure (.test .empty)
  | "-newer" => return .test (.newer (← facts (← argument word)).changed)
  | "-anewer" => return .test (.newer (← facts (← argument word)).changed)
  | "-cnewer" => return .test (.newer (← facts (← argument word)).changed)
  | "-samefile" => return .test (.file (← facts (← argument word)).id)
  | "-perm" => return .test (← mode)
  | "-links" => return .test (.names (← wanted word))
  | "-inum" => return .test (.number (← wanted word))
  | "-uid" => return .test (.owner (← wanted word))
  | "-gid" => return .test (.owner (← wanted word))
  | "-user" => return .test (← owner word "a known user")
  | "-group" => return .test (← owner word "an existing group")
  | "-nouser" => pure (.test (.always false))
  | "-nogroup" => pure (.test (.always false))
  | "-mtime" => return .test (.age (← wanted word) (day * second))
  | "-atime" => return .test (.age (← wanted word) (day * second))
  | "-ctime" => return .test (.age (← wanted word) (day * second))
  | "-mmin" => return .test (.age (← wanted word) (60 * second))
  | "-amin" => return .test (.age (← wanted word) (60 * second))
  | "-cmin" => return .test (.age (← wanted word) (60 * second))
  | "-readable" => pure yes
  | "-writable" => pure yes
  | "-executable" => pure (.test .runs)
  | "-true" => pure yes
  | "-false" => pure (.test (.always false))
  | "-depth" => do
    modify fun s => { s with childrenFirst := true }
    pure yes
  | "-d" => do
    modify fun s => { s with childrenFirst := true }
    pure yes
  | "-maxdepth" => do
    let n ← depth word
    modify fun s => { s with most := some n }
    pure yes
  | "-mindepth" => do
    let n ← depth word
    modify fun s => { s with least := n }
    pure yes
  | "-mount" => pure yes
  | "-xdev" => pure yes
  | "-noleaf" => pure yes
  | "-daystart" => pure yes
  | "-warn" => pure yes
  | "-nowarn" => pure yes
  | "-ignore_readdir_race" => pure yes
  | "-print" => action (.print '\n')
  | "-print0" => action (.print '\x00')
  | "-fprint" => do action (.printTo (← argument word) '\n')
  | "-fprint0" => do action (.printTo (← argument word) '\x00')
  | "-printf" => do action (.format (← argument word))
  | "-exec" => command word false false
  | "-execdir" => command word true false
  | "-ok" => command word false true
  | "-okdir" => command word true true
  | "-delete" => do
    modify fun s => { s with childrenFirst := true }
    action .delete
  | "-prune" => pure (.action .prune)
  | "-quit" => action .quit
  | _ =>
    match word with
    | '-' :: _ => Work.fail ("unknown predicate \x60".toList ++ word ++ ['\''])
    | _ => Work.fail ("paths must precede expression: \x60".toList ++ word ++ ['\''])

/-- The word ends what stands before it. -/
def endsTerm (word : Octets) : Bool :=
  ["-o", "-or", ",", ")"].any fun w => w.toList = word

mutual

/-- Read expressions of which the last one counts. -/
def listed : Nat → SeekRead SeekExpr
  | 0 => Work.fail "invalid expression".toList
  | fuel + 1 => do
    let first ← alternatives fuel
    match ← peek with
    | some [','] => do
      advance
      pure (.after first (← listed fuel))
    | _ => pure first

/-- Read expressions of which one has to hold. -/
def alternatives : Nat → SeekRead SeekExpr
  | 0 => Work.fail "invalid expression".toList
  | fuel + 1 => do
    let first ← terms fuel
    match ← peek with
    | some word =>
      if word = "-o".toList || word = "-or".toList then
        advance
        if (← peek).isNone then Work.fail ("expected an expression after ".toList ++ quoteWord word)
        pure (.either first (← alternatives fuel))
      else pure first
    | none => pure first

/-- Read expressions that all have to hold. -/
def terms : Nat → SeekRead SeekExpr
  | 0 => Work.fail "invalid expression".toList
  | fuel + 1 => do
    let first ← term fuel
    match ← peek with
    | none => pure first
    | some word =>
      if endsTerm word then pure first
      else
        if word = "-a".toList || word = "-and".toList then
          advance
          if (← peek).isNone then Work.fail ("expected an expression after ".toList ++ quoteWord word)
        pure (.both first (← terms fuel))

/-- Read an expression that is not put together, or one in parentheses. -/
def term : Nat → SeekRead SeekExpr
  | 0 => Work.fail "invalid expression".toList
  | fuel + 1 => do
    match ← peek with
    | none => Work.fail "invalid expression".toList
    | some word => do
      advance
      if word = ['!'] || word = "-not".toList then
        if (← peek).isNone then Work.fail ("expected an expression after ".toList ++ quoteWord word)
        pure (.opposite (← term fuel))
      else if word = ['('] then
        if (← peek) = some [')'] then Work.fail "invalid expression; empty parentheses are not allowed.".toList
        let e ← if (← peek).isNone then pure (.test (.always true)) else listed fuel
        match ← peek with
        | some [')'] => do
          advance
          pure e
        | _ =>
          Work.fail "invalid expression; I was expecting to find a ')' somewhere but did not see one.".toList
      else if word = [')'] then Work.fail "invalid expression; you have too many ')'".toList
      else if ["-o", "-or", "-a", "-and", ","].any fun w => w.toList = word then
        Work.fail ("invalid expression; you have used a binary operator ".toList ++ quoteWord word ++
          " with nothing before it.".toList)
      else meaning word

end

/-- Read what is sought. -/
def wish : SeekRead SeekWish := do
  let e ← if (← peek).isNone then pure (.test (.always true))
    else listed (3 * (← get).rest.length + 8)
  if (← peek).isSome then Work.fail "you have too many ')'".toList
  let s ← get
  pure { expr := if s.acts then e else .both e (.action (.print '\n')), childrenFirst := s.childrenFirst, least := s.least
         most := s.most }

end SeekRead

end Diagnostics.Sandbox
