import Diagnostics.Sandbox.Tool.Record.Reader
import Diagnostics.Sandbox.Tool.Record.Value
import Diagnostics.Sandbox.Tool.Wait

/-!
# Records, fields and files

What a program for records works on: its variables, the record at hand with its fields, the files and commands that it
reads, and those that it writes to.
-/

namespace Diagnostics.Sandbox

/-! ## State -/

/-- What a variable holds. -/
inductive RecordCell
  | unset
  | value (v : RecordValue)
  | table (n : Nat)

/-- How records are told apart. -/
inductive RecordBreak
  | char (c : Char)
  | emptyLines
  | pattern (p : TextPattern)

/-- How fields are told apart. -/
inductive FieldBreak
  | blanks
  | char (c : Char)
  | everywhere
  | pattern (p : TextPattern)

/-- Something that is read: what has been read and not used, whether that is all, and the command that it comes from. -/
structure RecordSource where
  descriptor : Nat
  buffer : Octets := []
  ended : Bool := false
  child : Option Nat := none

/-- What something that is written to is. -/
inductive SinkKind
  | file
  | command
  deriving DecidableEq

/-- Something that is written to, with what has not been written yet. -/
structure RecordSink where
  kind : SinkKind
  name : Octets
  descriptor : Nat
  child : Option Nat := none
  held : List Octets := []
  size : Nat := 0

/-- The record at hand. Its fields are looked for when they are needed, and it is put together again when one of them
has been changed. -/
structure RecordLine where
  whole : Octets := []
  fields : Option (Array RecordValue) := none
  isStale : Bool := false
  breaks : FieldBreak := .blanks

/-- A program under way. -/
structure RecordState where
  program : RecordProgram
  shared : Array RecordCell
  own : Array RecordCell := #[]
  tables : Array RecordTable := #[]
  line : RecordLine := {}
  main : Option RecordSource := none
  nextArgument : Nat := 1
  hasRead : Bool := false
  isOver : Bool := false
  sources : List ((SinkKind × Octets) × RecordSource) := []
  sinks : List RecordSink := []
  ranges : Array Bool := #[]
  patterns : List (Octets × TextPattern) := []
  seed : RecordValue := .number 0.0
  random : Nat := 1
  steps : Nat := 0
  status : Nat := 0

/-- Why the present statement is not carried out to its end. -/
inductive RecordStop
  | next
  | nextFile
  | exits
  | breaks
  | continues
  | gives (v : RecordValue)
  | fault (text : Octets)

/-- What a program does. -/
abbrev RecordWork := ExceptT RecordStop (StateT RecordState Work)

namespace RecordWork

/-- Do what tools do. -/
def work (w : Work α) : RecordWork α := liftM w

/-- A fault that ends the program. -/
def fault (text : Octets) : RecordWork α := throw (.fault text)

/-! ## Variables -/

/-- Numbers of the variables that mean something. -/
def fieldCount : Nat := 0
def recordCount : Nat := 1
def fileRecordCount : Nat := 2
def fieldSeparator : Nat := 3
def outputSeparator : Nat := 4
def outputEnd : Nat := 5
def recordSeparator : Nat := 6
def fileName : Nat := 7
def keySeparator : Nat := 8
def textFormat : Nat := 9
def outputFormat : Nat := 10
def matchStart : Nat := 11
def matchLength : Nat := 12
def argumentCount : Nat := 13
def arguments : Nat := 14
def environment : Nat := 15

/-- The value of a shared variable. -/
def sharedValue (n : Nat) : RecordWork RecordValue := do
  match (← get).shared[n]? with
  | some (.value v) => pure v
  | _ => pure .unset

/-- Set a shared variable. -/
def setShared (n : Nat) (v : RecordValue) : RecordWork Unit :=
  modify fun s => { s with shared := s.shared.set! n (.value v) }

/-- The format for numbers in texts. -/
def numberFormat : RecordWork Octets := return (← sharedValue textFormat).toText []

/-- A shared variable as a text. -/
def sharedText (n : Nat) : RecordWork Octets := do
  let format ← numberFormat
  return (← sharedValue n).toText format

/-- What a variable holds. -/
def cell : RecordName → RecordWork RecordCell
  | .shared n => return ((← get).shared[n]?).getD .unset
  | .own n => return ((← get).own[n]?).getD .unset

/-- Change what a variable holds. -/
def setCell (c : RecordCell) : RecordName → RecordWork Unit
  | .shared n => modify fun s => { s with shared := s.shared.set! n c }
  | .own n => modify fun s => { s with own := s.own.set! n c }

/-- The number of a new table. -/
def newTable : RecordWork Nat := modifyGet fun s => (s.tables.size, { s with tables := s.tables.push {} })

/-- The table that a variable is; it becomes one if nothing is known of it. -/
def tableOf (name : RecordName) : RecordWork Nat := do
  match ← cell name with
  | .table n => pure n
  | _ => do
    let n ← newTable
    setCell (.table n) name
    pure n

/-- Change a table. -/
def changeTable (n : Nat) (f : RecordTable → RecordTable) : RecordWork Unit :=
  modify fun s => { s with tables := s.tables.modify n f }

/-- The value of a key; the key is there afterwards. -/
def lookUp (n : Nat) (key : Octets) : RecordWork RecordValue := do
  let t := ((← get).tables[n]?).getD {}
  match t.find key with
  | (some v, t) => do
    changeTable n fun _ => t
    pure v
  | (none, _) => do
    changeTable n (·.set key .unset)
    pure .unset

/-! ## Patterns -/

/-- How patterns are written. -/
def style : PatternStyle := { extended := true, strict := true }

/-- A text as a pattern. -/
def patternOf (cs : Octets) : RecordWork TextPattern := do
  match (← get).patterns.lookup cs with
  | some p => pure p
  | none =>
    match TextPattern.ofText style cs with
    | .ok p => do
      modify fun s => { s with patterns := (cs, p) :: s.patterns }
      pure p
    | .error f =>
      fault ("run time error: regular expression compile failed (".toList ++ RecordRead.patternOf.words f ++ ")\n".toList ++ cs)

/-- The first match in a text from a place on that is not empty: where it begins and where it ends. -/
def filledMatch (p : TextPattern) (text : Array Char) : Nat → Nat → Option (Nat × Nat)
  | 0, _ => none
  | fuel + 1, start =>
    match p.search style text start with
    | none => none
    | some (a, r) => if a < r.place then some (a, r.place) else filledMatch p text fuel (a + 1)

/-! ## Fields -/

/-- Words between blanks. -/
def wordsBetweenBlanks (cs : Octets) : List Octets :=
  let isBlank (c : Char) : Bool := c == ' ' || c == '\t' || c == '\n'
  let (words, word) := cs.foldl (fun (words, word) c =>
    if isBlank c then (if word.isEmpty then words else word.reverse :: words, []) else (words, c :: word))
    (([] : List Octets), ([] : Octets))
  (if word.isEmpty then words else word.reverse :: words).reverse

/-- Pieces between signs that satisfy a condition. -/
def piecesBetween (isSign : Char → Bool) (cs : Octets) : List Octets :=
  let (pieces, piece) := cs.foldl (fun (pieces, piece) c =>
    if isSign c then (piece.reverse :: pieces, []) else (pieces, c :: piece)) (([] : List Octets), ([] : Octets))
  (piece.reverse :: pieces).reverse

/-- Pieces between matches of a pattern. -/
def piecesBetweenMatches (p : TextPattern) (text : Array Char) : Nat → Nat → List Octets → List Octets
  | 0, start, seen => ((text.extract start text.size).toList :: seen).reverse
  | fuel + 1, start, seen =>
    match filledMatch p text (text.size + 1) start with
    | some (a, b) => piecesBetweenMatches p text fuel b ((text.extract start a).toList :: seen)
    | none => ((text.extract start text.size).toList :: seen).reverse

/-- The fields of a text. -/
def fieldsOf (breaks : FieldBreak) (cs : Octets) : List Octets :=
  if cs.isEmpty then []
  else
    match breaks with
    | .blanks => wordsBetweenBlanks cs
    | .char c => piecesBetween (· == c) cs
    | .everywhere => cs.map ([·])
    | .pattern p => piecesBetweenMatches p cs.toArray (cs.length + 1) 0 []

/-- How fields are told apart by a text. -/
def fieldBreak (cs : Octets) : RecordWork FieldBreak := do
  match cs with
  | [] => pure .everywhere
  | [' '] => pure .blanks
  | [c] => pure (.char c)
  | cs => return .pattern (← patternOf cs)

/-- Set the record. -/
def setRecord (cs : Octets) : RecordWork Unit := do
  let breaks ← fieldBreak (← sharedText fieldSeparator)
  modify fun s => { s with line := { whole := cs, breaks } }

/-- The fields of the record. -/
def fields : RecordWork (Array RecordValue) := do
  let s ← get
  match s.line.fields with
  | some fs => pure fs
  | none => do
    let fs := ((fieldsOf s.line.breaks s.line.whole).map RecordValue.read).toArray
    set { s with line := { s.line with fields := some fs } }
    pure fs

/-- The record. -/
def record : RecordWork Octets := do
  let s ← get
  if !s.line.isStale then pure s.line.whole
  else
    let format ← numberFormat
    let between ← sharedText outputSeparator
    let whole := between.intercalate ((← fields).toList.map (·.toText format))
    modify fun s => { s with line := { s.line with whole, isStale := false } }
    pure whole

/-- The value of a field. -/
def field (n : Nat) : RecordWork RecordValue := do
  if n = 0 then return .read (← record)
  else return ((← fields)[n - 1]?).getD (.text [])

/-- Set the fields. -/
def setFields (fs : Array RecordValue) : RecordWork Unit :=
  modify fun s => { s with line := { s.line with fields := some fs, isStale := true } }

/-- Set a field; those before it that are not there become empty. -/
def setField (n : Nat) (v : RecordValue) : RecordWork Unit := do
  if n = 0 then
    let format ← numberFormat
    setRecord (v.toText format)
  else
    let fs ← fields
    let fs := (List.range (n - fs.size)).foldl (fun (fs : Array RecordValue) _ => fs.push (.text [])) fs
    setFields (fs.set! (n - 1) v)

/-- Set the number of fields. -/
def setFieldCount (n : Nat) : RecordWork Unit := do
  let fs ← fields
  let fs := (List.range (n - fs.size)).foldl (fun (fs : Array RecordValue) _ => fs.push (.text [])) fs
  setFields (fs.extract 0 n)

/-- The value of a variable. -/
def valueOf (name : RecordName) : RecordWork RecordValue := do
  if name = .shared fieldCount then return .number (Float.ofNat (← fields).size)
  else
    match ← cell name with
    | .value v => pure v
    | _ => pure .unset

/-- Set a variable. -/
def setValue (name : RecordName) (v : RecordValue) : RecordWork Unit := do
  if name = .shared fieldCount then setFieldCount (boundedWhole v.toFloat).toNat
  else
    match ← cell name with
    | .table _ => pure ()
    | _ => setCell (.value v) name

/-! ## Reading records -/

/-- How records are told apart by a text. -/
def recordBreak (cs : Octets) : RecordWork RecordBreak := do
  match cs with
  | [] => pure .emptyLines
  | [c] => pure (.char c)
  | cs => return .pattern (← patternOf cs)

/-- The first record of what has been read, and what follows it, if it can be told from that; `ended` tells that there
is no more to read. -/
def cutRecord (breaks : RecordBreak) (ended : Bool) (buffer : Octets) : Option (Octets × Octets) :=
  let last : Option (Octets × Octets) := if ended && !buffer.isEmpty then some (buffer, []) else none
  match breaks with
  | .char c =>
    let found := buffer.takeWhile (· != c)
    match buffer.drop found.length with
    | _ :: rest => some (found, rest)
    | [] => last
  | .emptyLines =>
    let cs := buffer.dropWhile (· == '\n')
    let (found, rest) := upToEmptyLine (cs.length + 1) [] cs
    if cs.isEmpty then none
    else if !(rest.dropWhile (· == '\n')).isEmpty then some (found, rest.dropWhile (· == '\n'))
    else if ended then some (if rest.isEmpty && found.getLast? = some '\n' then found.dropLast else found, [])
    else none
  | .pattern p =>
    let text := buffer.toArray
    match filledMatch p text (text.size + 1) 0 with
    | some (a, b) => if b < text.size || ended then some (buffer.take a, buffer.drop b) else none
    | none => last
where
  /-- What comes before an empty line, and the rest. -/
  upToEmptyLine : Nat → Octets → Octets → Octets × Octets
    | 0, seen, cs => (seen.reverse, cs)
    | _, seen, [] => (seen.reverse, [])
    | _, seen, '\n' :: '\n' :: rest => (seen.reverse, '\n' :: '\n' :: rest)
    | fuel + 1, seen, c :: rest => upToEmptyLine fuel (c :: seen) rest

/-- So much is read at once. -/
def readSize : Nat := 4096

/-- The next record of a source, and the source after it. -/
def nextOf (breaks : RecordBreak) : Nat → RecordSource → RecordWork (Except OsError (Option Octets × RecordSource))
  | 0, source => pure (.ok (none, source))
  | fuel + 1, source => do
    match cutRecord breaks source.ended source.buffer with
    | some (found, rest) => pure (.ok (some found, { source with buffer := rest }))
    | none =>
      if source.ended then pure (.ok (none, { source with buffer := [] }))
      else
        match ← work (Work.ask (.read source.descriptor readSize)) with
        | .ok [] => nextOf breaks fuel { source with ended := true }
        | .ok cs => nextOf breaks fuel { source with buffer := source.buffer ++ cs }
        | .error e => pure (.error e)

/-! ## Writing -/

/-- So much is held before it is written. -/
def holdSize : Nat := 4096

/-- Write what is held for something. -/
def flushSink (s : RecordSink) : RecordWork RecordSink := do
  if s.held.isEmpty then pure s
  else
    let _ ← work (Task.writeAll s.descriptor s.held.reverse.flatten)
    pure { s with held := [], size := 0 }

/-- Write everything that is held. -/
def flushAll : RecordWork Unit := do
  work Work.flush
  let sinks ← (← get).sinks.mapM flushSink
  modify fun s => { s with sinks }

/-- Write to something. -/
def writeTo (sink : RecordSink) (cs : Octets) : RecordWork Unit := do
  let s := { sink with held := cs :: sink.held, size := sink.size + cs.length }
  let s ← if holdSize < s.size then flushSink s else pure s
  modify fun state =>
    { state with sinks := s :: state.sinks.filter fun t => !(t.kind = s.kind && t.name = s.name) }

/-- Run a command of the shell with its input or its output at a descriptor. -/
def startCommand (command : Octets) (theirs mine number : Nat) : RecordWork Nat := do
  flushAll
  work do
    let t ← get
    let running : Work Nat := do
      let _ ← Work.ask (.duplicate theirs number)
      let _ ← Work.ask (.close theirs)
      let _ ← Work.ask (.close mine)
      let _ ← Work.become ["sh".toList, "-c".toList, command] t.environment
      throw 127
    Task.start (Task.program running t id)

/-- Find what is written to, or open it. -/
def sinkOf (kind : SinkKind) (name : Octets) (appends : Bool) : RecordWork RecordSink := do
  match (← get).sinks.find? fun s => s.kind = kind && s.name = name with
  | some s => pure s
  | none =>
    match kind with
    | .file =>
      match ← work (Work.ask (.openFile name { writes := true, creates := true, appends, empties := !appends } 0o666)) with
      | .ok descriptor => pure { kind, name, descriptor }
      | .error e => fault ("cannot open \"".toList ++ name ++ "\" for output (".toList ++ e.words.toList ++ [')'])
    | .command => do
      let (source, target) : Nat × Nat ← work (Work.ask .pipe)
      let child ← startCommand name source target 0
      let _ ← work (Work.ask (.close source))
      pure { kind, name, descriptor := target, child := some child }

/-- The status of a process that is waited for. -/
def statusOf (child : Nat) : RecordWork Nat := do
  match ← work (Work.ask (.wait (.process child) true)) with
  | .ok (some (_, .exited n)) => pure n
  | .ok (some (_, .killed n)) => pure (256 + n)
  | .ok (some (_, .stopped n)) => pure (256 + n)
  | _ => pure 0

/-- Close something that is written to; the status of the command that it is. -/
def closeSink (sink : RecordSink) : RecordWork Nat := do
  let sink ← flushSink sink
  let _ ← work (Work.ask (.close sink.descriptor))
  modify fun s => { s with sinks := s.sinks.filter fun t => !(t.kind = sink.kind && t.name = sink.name) }
  match sink.child with
  | some child => statusOf child
  | none => pure 0

/-- Close something that is read; the status of the command that it comes from. -/
def closeSource (key : SinkKind × Octets) (source : RecordSource) : RecordWork Nat := do
  unless source.descriptor = 0 do let _ ← work (Work.ask (.close source.descriptor))
  modify fun s => { s with sources := s.sources.filter (·.1 ≠ key) }
  match source.child with
  | some child => statusOf child
  | none => pure 0

/-- Close everything with a name; the status, if there was something. -/
def closeNamed (name : Octets) : RecordWork (Option Nat) := do
  let s ← get
  let sinks := s.sinks.filter (·.name = name)
  let sources := s.sources.filter (·.1.2 = name)
  let first ← sinks.mapM closeSink
  let second ← sources.mapM fun (key, source) => closeSource key source
  pure (first ++ second).getLast?

end RecordWork

end Diagnostics.Sandbox
