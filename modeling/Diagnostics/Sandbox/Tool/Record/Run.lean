import Diagnostics.Sandbox.Tool.Names
import Diagnostics.Sandbox.Tool.Record.State

/-!
# Carrying out programs for records

Expressions get their values and statements are carried out, for one record after the other. Tables are given to
functions as they are, and a name that a function makes a table is one for its caller, too.
-/

namespace Diagnostics.Sandbox

namespace RecordWork

/-! ## Numbers -/

/-- A number to the power of another. -/
def powerOf (x y : Float) : Float := x.pow y

/-- What is left of a division of numbers; it has the sign of the first one. -/
def restOf (x y : Float) : Float :=
  match Real.ofFloat x, Real.ofFloat y with
  | .fraction negative a b, .fraction _ c d =>
    if c = 0 then 0.0 / 0.0 else (Real.fraction negative (a * d % (c * b)) (b * d)).toFloat
  | .fraction .., .unbounded _ => x
  | _, _ => 0.0 / 0.0

/-- Two numbers put together. -/
def sumOf (s : RecordSum) (x y : Float) : Float :=
  match s with
  | .plus => x + y
  | .minus => x - y
  | .times => x * y
  | .over => x / y
  | .rest => restOf x y
  | .power => powerOf x y

/-- The relation that is asked about holds. -/
def holdsFor (o : RecordOrder) (isLess isEqual : Bool) : Bool :=
  match o with
  | .less => isLess
  | .atMost => isLess || isEqual
  | .equal => isEqual
  | .different => !isEqual
  | .atLeast => !isLess
  | .more => !(isLess || isEqual)

/-- Compare values: as numbers if both count as numbers, and otherwise as texts. -/
def compare (format : Octets) (o : RecordOrder) (a b : RecordValue) : Bool :=
  if a.isNumeric && b.isNumeric then holdsFor o (a.toFloat < b.toFloat) (a.toFloat == b.toFloat)
  else
    let x := a.toText format
    let y := b.toText format
    holdsFor o (x != y && octetsLe x y) (x == y)

/-- The next random number between zero and one. -/
def randomNumber : RecordWork Float := do
  let s ← get
  let next := (s.random * 6364136223846793005 + 1442695040888963407) % 18446744073709551616
  set { s with random := next }
  pure (Float.ofNat (next / 2048) / 9007199254740992.0)

/-! ## Texts -/

/-- A part of a text from a place on, of so many characters; places are counted from one. -/
def partOf (cs : Octets) (start : Float) (length : Option Float) : Octets :=
  let (start, length) := if start < 1.0 then (1.0, length.map (· + (start - 1.0))) else (start, length)
  let first := boundedWhole start
  match length with
  | none => cs.drop (first - 1).toNat
  | some l =>
    if l.isNaN then []
    else (cs.drop (first - 1).toNat).take (boundedWhole (l + (start - start.floor))).toNat

/-- The place of a text in another, counted from one; zero if it is not there. -/
def placeIn (wanted : Octets) : Nat → Octets → Nat
  | n, [] => if wanted.isEmpty then n else 0
  | n, c :: rest => if wanted.isPrefixOf (c :: rest) then n else placeIn wanted (n + 1) rest

/-- What comes instead of a match. -/
def replacementOf (found : Octets) : Octets → Octets
  | '\\' :: '\\' :: '&' :: rest => '\\' :: found ++ replacementOf found rest
  | '\\' :: '&' :: rest => '&' :: replacementOf found rest
  | '&' :: rest => found ++ replacementOf found rest
  | c :: rest => c :: replacementOf found rest
  | [] => []

/-- Replace matches in a text from a place on; `after` is where a match ended that was not empty. -/
def replaceIn (p : TextPattern) (everywhere : Bool) (by_ : Octets) (text : Array Char) :
    Nat → Nat → Option Nat → Nat → List Octets → Nat × Octets
  | 0, start, _, count, seen => (count, ((text.extract start text.size).toList :: seen).reverse.flatten)
  | fuel + 1, start, after, count, seen =>
    let done (count : Nat) (from_ : Nat) (seen : List Octets) : Nat × Octets :=
      (count, ((text.extract from_ text.size).toList :: seen).reverse.flatten)
    match p.search style text start with
    | none => done count start seen
    | some (a, r) =>
      let b := r.place
      let before := (text.extract start a).toList
      let next := (text.extract b (b + 1)).toList
      if a = b && after = some a then
        if a < text.size then replaceIn p everywhere by_ text fuel (a + 1) none count (next :: before :: seen)
        else done count start seen
      else
        let seen := replacementOf (text.extract a b).toList by_ :: before :: seen
        if !everywhere then done (count + 1) b seen
        else if a = b then
          if b < text.size then replaceIn p everywhere by_ text fuel (b + 1) none (count + 1) (next :: seen)
          else done (count + 1) b seen
        else replaceIn p everywhere by_ text fuel b (some b) (count + 1) seen

/-! ## Reading -/

/-- A variable that is set in an argument. -/
def settingOf? (word : Octets) : Option (Octets × Octets) :=
  let name := word.takeWhile RecordToken.isNameChar
  match word.drop name.length with
  | '=' :: value =>
    if name.head?.any (fun c => !c.isDigit) then
      some (name, RecordToken.unescaped (value.length + 1) value)
    else none
  | _ => none

/-- Set a variable that is named in an argument, if the program knows it. -/
def setNamed (name value : Octets) : RecordWork Unit := do
  match (← get).program.names.findIdx? (· = name) with
  | some n => setValue (.shared n) (.read value)
  | none => pure ()

/-- Open the next file that the arguments name; the input if they name none. -/
def openNext : Nat → RecordWork Unit
  | 0 => pure ()
  | fuel + 1 => do
    let s ← get
    let count := (boundedWhole (← sharedValue argumentCount).toFloat).toNat
    if count ≤ s.nextArgument then
      if s.hasRead then set { s with isOver := true }
      else
        set { s with hasRead := true, main := some { descriptor := 0 } }
        setShared fileName (.text ['-'])
    else
      set { s with nextArgument := s.nextArgument + 1 }
      let t := (s.tables[0]?).getD {}
      let format ← numberFormat
      let word := ((t.find (toString s.nextArgument).toList).1.getD .unset).toText format
      match settingOf? word with
      | some (name, value) => do
        setNamed name value
        openNext fuel
      | none =>
        if word.isEmpty then openNext fuel
        else
          match ← work (Work.openInput word) with
          | .ok descriptor => do
            modify fun s => { s with hasRead := true, main := some { descriptor } }
            setShared fileName (.text word)
            setShared fileRecordCount (.number 0.0)
          | .error e => fault ("cannot open \"".toList ++ word ++ "\" (".toList ++ e.words.toList ++ [')'])

/-- A bound for the number of arguments. -/
def argumentLimit : Nat := 1000000

/-- The next record of the input. -/
def nextRecord : Nat → RecordWork (Option Octets)
  | 0 => pure none
  | fuel + 1 => do
    let s ← get
    if s.isOver then pure none
    else
      match s.main with
      | none => do
        openNext argumentLimit
        nextRecord fuel
      | some source => do
        let breaks ← recordBreak (← sharedText recordSeparator)
        match ← nextOf breaks Task.moveLimit source with
        | .error e => fault ("read error (".toList ++ e.words.toList ++ [')'])
        | .ok (some cs, source) => do
          modify fun s => { s with main := some source }
          pure (some cs)
        | .ok (none, source) => do
          work (Work.closeInput source.descriptor)
          modify fun s => { s with main := none }
          nextRecord fuel

/-- Count a record. -/
def countRecord (n : Nat) : RecordWork Unit := do
  setShared n (.number ((← sharedValue n).toFloat + 1.0))

/-- The next record of a file or of a command, what there is of it, or nothing at the end. -/
def recordOf (kind : SinkKind) (name : Octets) : RecordWork (Except OsError (Option Octets)) := do
  let opened : Except OsError RecordSource ← match (← get).sources.lookup (kind, name) with
    | some source => pure (.ok source)
    | none =>
      match kind with
      | .file => do
        match ← work (Work.openInput name) with
        | .ok descriptor => pure (.ok { descriptor })
        | .error e => pure (.error e)
      | .command => do
        let (source, target) : Nat × Nat ← work (Work.ask .pipe)
        let child ← startCommand name target source 1
        let _ ← work (Work.ask (.close target))
        pure (.ok { descriptor := source, child := some child })
  match opened with
  | .error e => pure (.error e)
  | .ok source => do
    let breaks ← recordBreak (← sharedText recordSeparator)
    match ← nextOf breaks Task.moveLimit source with
    | .error e => pure (.error e)
    | .ok (found, source) => do
      modify fun s =>
        { s with sources := ((kind, name), source) :: s.sources.filter fun entry => decide (entry.1 ≠ (kind, name)) }
      pure (.ok found)

/-! ## Time -/

/-- So many steps take a microsecond. -/
def stepsOfTime : Nat := 16

/-- The seconds of the clock. -/
def secondsNow : RecordWork Float := do
  let now : Nat ← work (Work.ask .clock)
  pure (Float.ofNat (now / second))

/-- Take a step of a loop, which takes its time. -/
def takeStep : RecordWork Unit := do
  let s ← get
  if s.steps < stepsOfTime then set { s with steps := s.steps + 1 }
  else
    set { s with steps := 0 }
    work (Work.ask (.work 1))

/-! ## Printing -/

/-- Print to where a sink is named. -/
def printTo (target : Option (SinkKind × Octets × Bool)) (cs : Octets) : RecordWork Unit := do
  match target with
  | none => work (Work.print cs)
  | some (kind, name, appends) =>
    if kind = .file && (name = "/dev/stdout".toList || name = ['-']) then work (Work.print cs)
    else if kind = .file && name = "/dev/stderr".toList then work (Work.mutter cs)
    else writeTo (← sinkOf kind name appends) cs

/-- A whole number as a value. -/
def count (n : Nat) : RecordValue := .number (Float.ofNat n)

/-! ## Carrying out -/

mutual

/-- The value of an expression. -/
def eval : Nat → RecordExpr → RecordWork RecordValue
  | 0, _ => fault "function call nesting too deep".toList
  | fuel + 1, e => do
    match e with
    | .number x => pure (.number x)
    | .text cs => pure (.text cs)
    | .pattern p => do
      let cs ← record
      pure (.ofBool (p.search style cs.toArray 0).isSome)
    | .place p => getPlace fuel p
    | .assign p e => do
      let v ← eval fuel e
      setPlace fuel p v
    | .change s p e => do
      let y := (← eval fuel e).toFloat
      let x := (← getPlace fuel p).toFloat
      setPlace fuel p (.number (sumOf s x y))
    | .step p before up => do
      let x := (← getPlace fuel p).toFloat
      let v ← setPlace fuel p (.number (if up then x + 1.0 else x - 1.0))
      pure (if before then v else .number x)
    | .sum s a b => do
      let x := (← eval fuel a).toFloat
      let y := (← eval fuel b).toFloat
      pure (.number (sumOf s x y))
    | .negative e => return .number (0.0 - (← eval fuel e).toFloat)
    | .positive e => return .number (← eval fuel e).toFloat
    | .opposite e => return .ofBool !(← eval fuel e).holds
    | .joined a b => do
      let x ← eval fuel a
      let y ← eval fuel b
      let format ← numberFormat
      pure (.text (x.toText format ++ y.toText format))
    | .order o a b => do
      let x ← eval fuel a
      let y ← eval fuel b
      pure (.ofBool (compare (← numberFormat) o x y))
    | .fits wanted a b => do
      let x ← text fuel a
      let p ← pattern fuel b
      pure (.ofBool ((p.search style x.toArray 0).isSome == wanted))
    | .both a b => do
      if (← eval fuel a).holds then return .ofBool (← eval fuel b).holds
      else pure (.ofBool false)
    | .either a b => do
      if (← eval fuel a).holds then pure (.ofBool true)
      else return .ofBool (← eval fuel b).holds
    | .choice c a b => do
      if (← eval fuel c).holds then eval fuel a else eval fuel b
    | .hasKey keys table => do
      let key ← keyOf fuel keys
      let n ← tableOf table
      pure (.ofBool ((((← get).tables[n]?).getD {}).has key))
    | .call name args => call fuel name args
    | .apply f args => apply fuel f args
    | .getLine source target => getLine fuel source target

/-- The value of an expression as a text. -/
def text : Nat → RecordExpr → RecordWork Octets
  | 0, _ => pure []
  | fuel + 1, e => do
    let v ← eval fuel e
    return v.toText (← numberFormat)

/-- The value of an expression as a pattern. -/
def pattern : Nat → RecordExpr → RecordWork TextPattern
  | 0, _ => pure .nothing
  | fuel + 1, e => do
    match e with
    | .pattern p => pure p
    | e => do patternOf (← text fuel e)

/-- The key that some expressions make. -/
def keyOf : Nat → List RecordExpr → RecordWork Octets
  | 0, _ => pure []
  | fuel + 1, es => do
    match es with
    | [e] => text fuel e
    | es => do
      let keys ← es.mapM (text fuel)
      let between ← sharedText keySeparator
      pure (between.intercalate keys)

/-- The number of a field. -/
def fieldNumber : Nat → RecordExpr → RecordWork Nat
  | 0, _ => pure 0
  | fuel + 1, e => do
    let n := boundedWhole (← eval fuel e).toFloat
    if n < 0 then
      fault ("run time error: negative field index $".toList ++ (toString n).toList)
    else pure n.toNat

/-- The value of a place. -/
def getPlace : Nat → RecordPlace → RecordWork RecordValue
  | 0, _ => pure .unset
  | fuel + 1, p => do
    match p with
    | .named name => valueOf name
    | .field e => do field (← fieldNumber fuel e)
    | .element table keys => do
      let key ← keyOf fuel keys
      lookUp (← tableOf table) key

/-- Set a place; the value that it has then. -/
def setPlace : Nat → RecordPlace → RecordValue → RecordWork RecordValue
  | 0, _, v => pure v
  | fuel + 1, p, v => do
    match p with
    | .named name => setValue name v
    | .field e => do setField (← fieldNumber fuel e) v
    | .element table keys => do
      let key ← keyOf fuel keys
      let n ← tableOf table
      changeTable n (·.set key v)
    pure v

/-- Call a function of the program. -/
def call : Nat → Octets → List RecordExpr → RecordWork RecordValue
  | 0, _, _ => fault "function call nesting too deep".toList
  | fuel + 1, name, args => do
    takeStep
    match (← get).program.routines.find? (·.name = name) with
    | none => pure .unset
    | some r => do
      let given ← args.mapM fun e => do
        match e with
        | .place (.named v) => do
          if v = .shared fieldCount then return .value (← valueOf v)
          cell v
        | e => return .value (← eval fuel e)
      let saved := (← get).own
      let cells := given ++ List.replicate (r.size - given.length) .unset
      modify fun s => { s with own := cells.toArray }
      let ended : Except RecordStop Unit ←
        try
          exec fuel r.body
          pure (.ok ())
        catch stop => pure (.error stop)
      let inner := (← get).own
      modify fun s => { s with own := saved }
      (args.zip given).zipIdx.forM fun ((e, before), i) => do
        match e, before, inner[i]? with
        | .place (.named v), .unset, some (.table n) => setCell (.table n) v
        | _, _, _ => pure ()
      match ended with
      | .ok _ => pure .unset
      | .error (.gives v) => pure v
      | .error stop => throw stop

/-- Apply a function that every program has. -/
def apply : Nat → RecordFunction → List RecordExpr → RecordWork RecordValue
  | 0, _, _ => pure .unset
  | fuel + 1, f, args => do
    let number (g : Float → Float) (e : RecordExpr) : RecordWork RecordValue :=
      return .number (g (← eval fuel e).toFloat)
    match f, args with
    | .length, [] => return count (← record).length
    | .length, [.place (.named v)] => do
      match ← cell v with
      | .table n => return count (((← get).tables[n]?).getD {}).size
      | _ => do
        let value ← valueOf v
        return count (value.toText (← numberFormat)).length
    | .length, [e] => return count (← text fuel e).length
    | .index, [a, b] => do
      let cs ← text fuel a
      let wanted ← text fuel b
      pure (count (if wanted.isEmpty then (if cs.isEmpty then 0 else 1) else placeIn wanted 1 cs))
    | .substring, a :: b :: rest => do
      let cs ← text fuel a
      let start := (← eval fuel b).toFloat
      let length ← match rest with
        | c :: _ => do pure (some (← eval fuel c).toFloat)
        | [] => pure none
      pure (.text (partOf cs start length))
    | .printed, format :: rest => do
      let values ← rest.mapM (eval fuel)
      return .text (← formatted "sprintf" format fuel values)
    | .split, a :: .place (.named v) :: rest => do
      let cs ← text fuel a
      let breaks ← match rest with
        | .pattern p :: _ => pure (.pattern p)
        | e :: _ => do fieldBreak (← text fuel e)
        | [] => do fieldBreak (← sharedText fieldSeparator)
      let pieces := fieldsOf breaks cs
      let n ← tableOf v
      changeTable n fun _ => (pieces.zipIdx).foldl (fun (t : RecordTable) (piece, i) =>
        t.set (toString (i + 1)).toList (.read piece)) {}
      pure (count pieces.length)
    | .find, [a, b] => do
      let cs ← text fuel a
      let p ← pattern fuel b
      let (start, length) : Float × Float := match p.search style cs.toArray 0 with
        | some (i, r) => (Float.ofNat (i + 1), Float.ofNat (r.place - i))
        | none => (0.0, -1.0)
      setShared matchStart (.number start)
      setShared matchLength (.number length)
      pure (.number start)
    | .replace, a :: b :: rest => replaced fuel false a b rest
    | .replaceAll, a :: b :: rest => replaced fuel true a b rest
    | .lower, [e] => return .text ((← text fuel e).map Char.toLower)
    | .upper, [e] => return .text ((← text fuel e).map Char.toUpper)
    | .sine, [e] => number Float.sin e
    | .cosine, [e] => number Float.cos e
    | .angle, [a, b] => do
      let y := (← eval fuel a).toFloat
      let x := (← eval fuel b).toFloat
      pure (.number (Float.atan2 y x))
    | .exponential, [e] => number Float.exp e
    | .logarithm, [e] => number Float.log e
    | .root, [e] => number Float.sqrt e
    | .whole, [e] => number (fun x => if x < 0.0 then 0.0 - (0.0 - x).floor else x.floor) e
    | .random, _ => return .number (← randomNumber)
    | .seed, args => do
      let v ← match args with
        | e :: _ => eval fuel e
        | [] => do pure (.number (← secondsNow))
      let before := (← get).seed
      modify fun s => { s with seed := v, random := (unsignedWhole v.toFloat) % 4294967296 * 2654435761 + 1 }
      pure before
    | .system, [e] => do
      let command ← text fuel e
      flushAll
      let child ← work do
        let t ← get
        let running : Work Nat := do
          let _ ← Work.become ["sh".toList, "-c".toList, command] t.environment
          throw 127
        Task.start (Task.program running t id)
      return count (← statusOf child)
    | .close, [e] => do
      match ← closeNamed (← text fuel e) with
      | some n => pure (count n)
      | none => pure (.number (-1.0))
    | .flush, _ => do
      flushAll
      pure (count 0)
    | .moment, _ => return .number (← secondsNow)
    | _, _ => pure .unset

/-- Values in a format. -/
def formatted (verb : String) (format : RecordExpr) : Nat → List RecordValue → RecordWork Octets
  | 0, _ => pure []
  | fuel + 1, values => do
    let cs ← text fuel format
    let out := RecordValue.formatted (← numberFormat) cs values
    match out.fault with
    | none => pure out.text
    | some f => do
      if verb = "printf" then work (Work.print out.text)
      fault ("run time error: ".toList ++ f ++ verb.toList ++ "(\"".toList ++ cs ++ "\")".toList)

/-- Replace matches in a place. -/
def replaced : Nat → Bool → RecordExpr → RecordExpr → List RecordExpr → RecordWork RecordValue
  | 0, _, _, _, _ => pure .unset
  | fuel + 1, everywhere, a, b, rest => do
    let p ← pattern fuel a
    let by_ ← text fuel b
    let place := match rest with
      | .place p :: _ => p
      | _ => .field (.number 0.0)
    let v ← getPlace fuel place
    let cs := v.toText (← numberFormat)
    let (n, cs) := replaceIn p everywhere by_ cs.toArray (cs.length + 2) 0 none 0 []
    if n ≠ 0 then
      let _ ← setPlace fuel place (.text cs)
    pure (count n)

/-- Read a line: one if there is one, zero at the end, and less if it cannot be read. -/
def getLine : Nat → LineSource → Option RecordPlace → RecordWork RecordValue
  | 0, _, _ => pure .unset
  | fuel + 1, source, target => do
    let put (cs : Octets) : RecordWork Unit := do
      match target with
      | some p => do
        let _ ← setPlace fuel p (.read cs)
      | none => setRecord cs
    let taken (found : Except OsError (Option Octets)) (counts : List Nat) : RecordWork RecordValue := do
      match found with
      | .ok (some cs) => do
        put cs
        counts.forM countRecord
        pure (count 1)
      | .ok none => pure (count 0)
      | .error _ => pure (.number (-1.0))
    match source with
    | .main => do taken (.ok (← nextRecord argumentLimit)) [recordCount, fileRecordCount]
    | .file path => do
      let name ← text fuel path
      taken (← recordOf .file name) []
    | .command command => do
      let name ← text fuel command
      taken (← recordOf .command name) [recordCount]

/-- Where printed text goes. -/
def targetOf : Nat → RecordTarget → RecordWork (Option (SinkKind × Octets × Bool))
  | 0, _ => pure none
  | fuel + 1, target => do
    match target with
    | .output => pure none
    | .file path appends => return some (.file, ← text fuel path, appends)
    | .command command => return some (.command, ← text fuel command, false)

/-- Carry out a statement. -/
def exec : Nat → RecordStatement → RecordWork Unit
  | 0, _ => fault "function call nesting too deep".toList
  | fuel + 1, s => do
    match s with
    | .nothing => pure ()
    | .expr e => do
      let _ ← eval fuel e
    | .print words target => do
      let values ← words.mapM (eval fuel)
      let format := (← sharedValue outputFormat).toText []
      let between ← sharedText outputSeparator
      let ending ← sharedText outputEnd
      let cs ← if words.isEmpty then record else pure (between.intercalate (values.map (·.toText format)))
      printTo (← targetOf fuel target) (cs ++ ending)
    | .format words target => do
      match words with
      | format :: rest => do
        let values ← rest.mapM (eval fuel)
        let cs ← formatted "printf" format fuel values
        printTo (← targetOf fuel target) cs
      | [] => pure ()
    | .choose c a b => do
      if (← eval fuel c).holds then exec fuel a else exec fuel b
    | .repeatWhile c body => rounds fuel (some c) body .nothing
    | .repeatUntil body c => do
      if ← once fuel body then rounds fuel (some c) body .nothing
    | .repeatFor first c step body => do
      exec fuel first
      rounds fuel c body step
    | .forKeys name table body => do
      let n ← tableOf table
      let keys := (((← get).tables[n]?).getD {}).keys
      overKeys fuel name body keys
    | .block statements => statements.forM (exec fuel)
    | .next => throw .next
    | .nextFile => throw .nextFile
    | .exit status => do
      match status with
      | some e => do
        let n := boundedWhole (← eval fuel e).toFloat
        modify fun s => { s with status := (n % 256).toNat }
      | none => pure ()
      throw .exits
    | .break => throw .breaks
    | .continue => throw .continues
    | .give value => do
      match value with
      | some e => do throw (.gives (← eval fuel e))
      | none => throw (.gives .unset)
    | .delete table keys => do
      match keys with
      | none => do
        let n ← tableOf table
        changeTable n fun _ => {}
      | some es => do
        let key ← keyOf fuel es
        let n ← tableOf table
        changeTable n (·.erase key)

/-- Carry out the body of a loop; whether the loop goes on. -/
def once : Nat → RecordStatement → RecordWork Bool
  | 0, _ => pure false
  | fuel + 1, body => do
    takeStep
    try
      exec fuel body
      pure true
    catch stop =>
      match stop with
      | .breaks => pure false
      | .continues => pure true
      | stop => throw stop

/-- Carry out a loop as long as its condition holds. -/
def rounds : Nat → Option RecordExpr → RecordStatement → RecordStatement → RecordWork Unit
  | 0, _, _, _ => pure ()
  | fuel + 1, condition, body, step => do
    let goes ← match condition with
      | some c => do pure (← eval fuel c).holds
      | none => pure true
    if goes then
      if ← once fuel body then
        exec fuel step
        rounds fuel condition body step

/-- Carry out the body of a loop for keys. -/
def overKeys : Nat → RecordName → RecordStatement → List Octets → RecordWork Unit
  | 0, _, _, _ => pure ()
  | _, _, _, [] => pure ()
  | fuel + 1, name, body, key :: rest => do
    setValue name (.read key)
    if ← once fuel body then overKeys fuel name body rest

end

/-! ## Records -/

/-- The record is one that a rule is for; `n` is the number of the rule. -/
def isFor (n : Nat) (c : RecordCondition) : RecordWork Bool := do
  let holds (e : RecordExpr) : RecordWork Bool := return (← eval Task.moveLimit e).holds
  match c with
  | .always => pure true
  | .when e => holds e
  | .range first last => do
    let isOpen := ((← get).ranges[n]?).getD false
    let begins ← if isOpen then pure true else holds first
    if begins then
      let ends ← holds last
      modify fun s => { s with ranges := s.ranges.set! n !ends }
    pure begins

/-- Carry out the rules for a record; whether the file goes on. -/
def withRecord : RecordWork Bool := do
  try
    (← get).program.rules.zipIdx.forM fun (r, n) => do
      if ← isFor n r.condition then exec Task.moveLimit r.body
    pure true
  catch stop =>
    match stop with
    | .next => pure true
    | .nextFile => pure false
    | stop => throw stop

/-- Carry out the rules for all records. -/
def withRecords : Nat → RecordWork Unit
  | 0 => pure ()
  | fuel + 1 => do
    match ← nextRecord argumentLimit with
    | none => pure ()
    | some cs => do
      countRecord recordCount
      countRecord fileRecordCount
      setRecord cs
      if !(← withRecord) then
        match (← get).main with
        | some source => do
          work (Work.closeInput source.descriptor)
          modify fun s => { s with main := none }
        | none => pure ()
      withRecords fuel

/-- Carry out a part of a program, which may end early. -/
def part (m : RecordWork Unit) : RecordWork Unit := do
  try m
  catch stop =>
    match stop with
    | .exits => pure ()
    | stop => throw stop

/-- Carry out a program. What is to be done after the last record is done even if the rest ended early. -/
def whole : RecordWork Unit := do
  let p := (← get).program
  let isRead := !p.rules.isEmpty || !p.last.isEmpty
  part do
    p.first.forM (exec Task.moveLimit)
    if isRead then withRecords Task.moveLimit
  part (p.last.forM (exec Task.moveLimit))

/-- What is wrong, with where in the input that is. -/
def located (text : Octets) : RecordWork Octets := do
  if "run time error".toList.isPrefixOf text then
    let name ← sharedText fileName
    let shown (v : RecordValue) : Octets := v.toText []
    pure (text ++ "\n\tFILENAME=\"".toList ++ name ++ "\" FNR=".toList ++
      shown (.number (← sharedValue fileRecordCount).toFloat) ++ " NR=".toList ++
      shown (.number (← sharedValue recordCount).toFloat))
  else pure text

/-- Carry out a program, and close everything; the status. -/
def toEnd : RecordWork Nat := do
  let failed : Bool ←
    try
      whole
      pure false
    catch stop =>
      match stop with
      | .fault text => do
        let t : Tool ← work get
        let text ← located text
        work (Work.mutter (lastName t.name ++ ": ".toList ++ text ++ ['\n']))
        pure true
      | _ => pure false
  let sinks := (← get).sinks
  sinks.forM fun s => do
    let _ ← closeSink s
  let status := (← get).status
  pure (if failed then 2 else status)

end RecordWork

end Diagnostics.Sandbox
