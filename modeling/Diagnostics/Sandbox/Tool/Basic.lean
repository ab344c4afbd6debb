import Diagnostics.Sandbox.Task
import Diagnostics.Sandbox.Tool.Quote

/-!
# Tools

A tool is a program that reads its options and its files, prints, and ends with a status. What it prints is held until
there is enough of it; complaints are written at once, after what has been printed.
-/

namespace Diagnostics.Sandbox

/-- What a tool knows and has printed. `advice` is said after a misuse, if it is not the usual one, and after it the text
of the document `pages`. -/
structure Tool where
  name : Octets
  environment : Bindings := []
  held : List Octets := []
  size : Nat := 0
  outputError : Option OsError := none
  status : Nat := 0
  failure : Nat := 1
  advice : Octets := []
  pages : Octets := []

/-- What a tool does; it may end early with a status. -/
abbrev Work := Task Tool Nat

namespace Work

/-! ## Printing -/

/-- Ask the system. -/
def ask (c : Call) : Work c.Answer := Task.ask c

/-- So much is held before it is written. -/
def holdLimit : Nat := 4096

/-- Write to the output, and note what is wrong. -/
def send (cs : Octets) : Work Unit := do
  match ← Task.writeAll 1 cs with
  | some e => modify fun t => { t with outputError := t.outputError.or (some e) }
  | none => pure ()

/-- Write what is held. -/
def flush : Work Unit := do
  let t ← get
  unless t.held.isEmpty do
    set { t with held := [], size := 0 }
    send t.held.reverse.flatten

/-- Print. -/
def print (cs : Octets) : Work Unit := do
  let t ← get
  let size := t.size + cs.length
  if size ≤ holdLimit then set { t with held := cs :: t.held, size }
  else
    let all := (cs :: t.held).reverse.flatten
    let left := size % holdLimit
    set { t with held := if left = 0 then [] else [all.drop (size - left)], size := left }
    send (all.take (size - left))

/-- Print a text. -/
def printText (text : String) : Work Unit := print text.toList

/-- Print a line. -/
def printLine (cs : Octets) : Work Unit := print (cs ++ ['\n'])

/-! ## Complaining -/

/-- Write to where complaints go. -/
def mutter (cs : Octets) : Work Unit := do
  let _ ← Task.writeAll 2 cs

/-- Complain under the name of the tool. -/
def complain (text : Octets) : Work Unit := do
  flush
  mutter ((← get).name ++ ": ".toList ++ text ++ ['\n'])

/-- Complain about a fault, which shows in the status at the end. -/
def blame (text : Octets) : Work Unit := do
  complain text
  modify fun t => { t with status := 1 }

/-- Complain about a file. -/
def blameFile (path : Octets) (e : OsError) : Work Unit :=
  blame (quoteNameIfNeeded path ++ ": ".toList ++ e.words.toList)

/-- End with the status of failures. -/
def giveUp : Work α := do throw (← get).failure

/-- Complain and give up. -/
def fail (text : Octets) : Work α := do
  complain text
  giveUp

/-- Where help is. -/
def whereHelpIs (name : Octets) : Octets := "Try '".toList ++ name ++ " --help' for more information.\n".toList

/-- The text of a document of the system, if there is one. -/
def document (path : Octets) : Work Octets := do
  if path.isEmpty then pure []
  else
    match ← ask (.openFile path { reads := true } 0) with
    | .error _ => pure []
    | .ok descriptor => do
      let content ← Task.readAll descriptor
      let _ ← ask (.close descriptor)
      pure (content.toOption.getD [])

/-- Say where help is, and give up. -/
def pointToHelp : Work α := do
  let t ← get
  let pages ← document t.pages
  mutter ((if t.advice.isEmpty then whereHelpIs t.name else t.advice) ++ pages)
  giveUp

/-- Complain about how the tool has been called. -/
def misuse (text : Octets) : Work α := do
  complain text
  pointToHelp

/-- The status so far. -/
def status : Work Nat := return (← get).status

end Work

/-! ## Options -/

/-- Whether an option has an argument. -/
inductive Wants
  | nothing
  | word
  | maybeWord
  deriving DecidableEq

/-- An option: its letter, its long name, and whether it has an argument. -/
structure OptionRule where
  letter : Option Char := none
  name : String
  wants : Wants := .nothing

/-- Options that have been read, by their long names. -/
abbrev Settings := List (String × Option Octets)

namespace Settings

/-- An option is there. -/
def has (s : Settings) (name : String) : Bool := s.any (·.1 == name)

/-- The last argument of an option. -/
def last? (s : Settings) (name : String) : Option Octets := (s.filter (·.1 == name)).getLast?.bind (·.2)

/-- The sign that ends lines: a newline, unless they are to end otherwise. -/
def lineSign (s : Settings) : Char := if s.has "zero-terminated" then '\x00' else '\n'

/-- The option of some that comes last. -/
def lastOf (s : Settings) (names : List String) : Option String :=
  (s.filter fun o => names.contains o.1).getLast?.map (·.1)

end Settings

namespace Work

/-- Read the letters of a word. -/
def readLetters (rules : List OptionRule) : Octets → List Octets → Settings → Work (List Octets × Settings)
  | [], args, seen => pure (args, seen)
  | c :: cs, args, seen => do
    match rules.find? (·.letter == some c) with
    | none => misuse ("invalid option -- '".toList ++ [c, '\''])
    | some rule =>
      match rule.wants with
      | .nothing => readLetters rules cs args ((rule.name, none) :: seen)
      | .maybeWord => pure (args, (rule.name, if cs.isEmpty then none else some cs) :: seen)
      | .word =>
        match cs, args with
        | _ :: _, _ => pure (args, (rule.name, some cs) :: seen)
        | [], value :: args => pure (args, (rule.name, some value) :: seen)
        | [], [] => misuse ("option requires an argument -- '".toList ++ [c, '\''])

/-- Read a long option, whose name may be cut short. -/
def readLong (rules : List OptionRule) (word : Octets) (args : List Octets) (seen : Settings) :
    Work (List Octets × Settings) := do
  let name := word.takeWhile (· != '=')
  let value := match word.dropWhile (· != '=') with
    | _ :: value => some value
    | [] => none
  let long := rules.filter fun r => 1 < r.name.length
  let shown (name : Octets) : Octets := "'--".toList ++ name ++ ['\'']
  let take (rule : OptionRule) : Work (List Octets × Settings) := do
    match rule.wants, value, args with
    | .nothing, none, _ => pure (args, (rule.name, none) :: seen)
    | .nothing, some _, _ =>
      misuse ("option ".toList ++ shown rule.name.toList ++ " doesn't allow an argument".toList)
    | .word, none, [] => misuse ("option ".toList ++ shown rule.name.toList ++ " requires an argument".toList)
    | .word, none, value :: args => pure (args, (rule.name, some value) :: seen)
    | _, value, _ => pure (args, (rule.name, value) :: seen)
  match long.find? (·.name.toList == name), long.filter fun r => name.isPrefixOf r.name.toList with
  | some rule, _ => take rule
  | none, [rule] => take rule
  | none, [] => misuse ("unrecognized option ".toList ++ shown name)
  | none, many => misuse ("option ".toList ++ shown name ++ " is ambiguous; possibilities:".toList ++
      many.flatMap fun r => ' ' :: shown r.name.toList)

/-- Read options; `fuel` bounds the number of words. Words that are no options may stand between them if the tool
permits that. -/
def readWith (rules : List OptionRule) (permits : Bool) : Nat → List Octets → List Octets → Settings →
    Work (Settings × List Octets)
  | 0, args, words, seen => pure (seen.reverse, words.reverse ++ args)
  | fuel + 1, args, words, seen => do
    match args with
    | [] => pure (seen.reverse, words.reverse)
    | ['-', '-'] :: rest => pure (seen.reverse, words.reverse ++ rest)
    | ('-' :: '-' :: long) :: rest => do
      let (rest, seen) ← readLong rules long rest seen
      readWith rules permits fuel rest words seen
    | ('-' :: c :: cs) :: rest => do
      let (rest, seen) ← readLetters rules (c :: cs) rest seen
      readWith rules permits fuel rest words seen
    | word :: rest =>
      if permits then readWith rules permits fuel rest (word :: words) seen
      else pure (seen.reverse, words.reverse ++ word :: rest)

/-- Read options wherever they stand. -/
def readOptions (rules : List OptionRule) (args : List Octets) : Work (Settings × List Octets) :=
  readWith rules true (args.length + 1) args [] []

/-- Read options up to the first word that is none. -/
def readLeadingOptions (rules : List OptionRule) (args : List Octets) : Work (Settings × List Octets) :=
  readWith rules false (args.length + 1) args [] []

/-- A tool that needs a file has been called without one. -/
def missingOperand : Work α := misuse "missing operand".toList

/-- A tool has been called with a file after another. -/
def missingAfter (word : Octets) : Work α := misuse ("missing operand after ".toList ++ quoteWord word)

/-- A tool has been called with too many words. -/
def extraOperand (word : Octets) : Work α := misuse ("extra operand ".toList ++ quoteWord word)

/-- One of several words, which may be cut short; what else it may be is said of a word that is none of them. -/
def choice (option : String) (names : List String) (word : Octets) : Work String := do
  let fits := names.filter fun n => word.isPrefixOf n.toList
  match names.find? (·.toList = word), fits with
  | some name, _ => pure name
  | none, [name] => pure name
  | none, _ => do
    let fault := if word.isEmpty || fits.isEmpty then "invalid" else "ambiguous"
    complain (fault.toList ++ " argument ".toList ++ quoteWord word ++ " for '--".toList ++ option.toList ++ ['\''])
    mutter "Valid arguments are:\n".toList
    names.forM fun n => mutter ("  - '".toList ++ n.toList ++ "'\n".toList)
    mutter (whereHelpIs (← get).name)
    throw 1

/-! ## Reading files -/

/-- Open a file for reading; a hyphen is the input. -/
def openInput (path : Octets) : Work (Except OsError Nat) := do
  if path = ['-'] then pure (.ok 0) else ask (.openFile path { reads := true } 0)

/-- Close what has been opened for reading. -/
def closeInput (descriptor : Nat) : Work Unit := do
  unless descriptor = 0 do let _ ← ask (.close descriptor)

/-- The content of a file, or of the input. -/
def contentOf (path : Octets) : Work (Except OsError Octets) := do
  match ← openInput path with
  | .error e => pure (.error e)
  | .ok descriptor => do
    let content ← Task.readAll descriptor
    closeInput descriptor
    pure content

/-- The contents of files, one after the other; complaints about those that cannot be read. -/
def contentsOf (paths : List Octets) : Work (List (Octets × Octets)) := do
  let paths := if paths.isEmpty then [['-']] else paths
  return (← paths.mapM fun path => do
    match ← contentOf path with
    | .ok content => pure [(path, content)]
    | .error e => do
      blameFile path e
      pure []).flatten

/-- Pieces of a text, each with the sign that ends it. -/
def piecesOf (sign : Char) (cs : Octets) : List Octets :=
  let rec cut : List Octets → Octets → Octets → List Octets
    | done, [], [] => done.reverse
    | done, piece, [] => (piece.reverse :: done).reverse
    | done, piece, c :: rest =>
      if c = sign then cut ((c :: piece).reverse :: done) [] rest else cut done (c :: piece) rest
  cut [] [] cs

/-- A piece without the sign that ends it. -/
def bareOf (sign : Char) (piece : Octets) : Octets := if piece.getLast? = some sign then piece.dropLast else piece

/-- Lines of a text, each with the newline that ends it. -/
def linesOf (cs : Octets) : List Octets := piecesOf '\n' cs

/-- A line without its newline. -/
def bare (line : Octets) : Octets := bareOf '\n' line

/-! ## Ending -/

/-- Write what is still held, and complain if something could not be written. -/
def closing (status : Nat) : Work Nat := do
  flush
  let t ← get
  match t.outputError with
  | some e => do
    complain ("write error: ".toList ++ e.words.toList)
    pure t.failure
  | none => pure status

/-- The program that a tool is. `failure` is the status of failures. -/
def program (work : List Octets → Work Nat) (failure : Nat) (args : List Octets) (environment : Bindings) :
    Program :=
  let whole : Work Nat := do
    match ← (work (args.drop 1)).attempt with
    | .ok status => closing status
    | .error status => closing status
  Task.program whole { name := args.headD [], environment, failure } id

end Work

end Diagnostics.Sandbox
