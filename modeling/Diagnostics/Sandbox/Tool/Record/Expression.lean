import Diagnostics.Sandbox.Tool.Record.Token

/-!
# Reading expressions of programs for records

Expressions are read from tokens, with the signs that bind more below those that bind less. A name that all of the
program shares gets a number when it is met first; a name of a function is found among what the function is given.
Whether a name is a table shows in how it is used.
-/

namespace Diagnostics.Sandbox

/-- How a name is used. -/
inductive NameUse
  | plain
  | table
  deriving DecidableEq

/-- A name that all of the program shares. -/
structure SharedName where
  name : Octets
  use : Option NameUse := none

/-- Reading: what is left, what is open, and the names that have been met. -/
structure RecordReading where
  rest : List PlacedToken
  parens : Nat := 0
  braces : Nat := 0
  loops : Nat := 0
  isRule : Bool := false
  given : Option (List Octets) := none
  shared : Array SharedName := #[]
  routines : List (Octets × Nat) := []
  calls : List (Octets × Nat × Nat) := []

/-- Reading a piece of a program. -/
abbrev RecordRead := StateT RecordReading (Except RecordFault)

namespace RecordRead

/-- Names that mean something to every program, in the order of their numbers. -/
def standardNames : List String :=
  ["NF", "NR", "FNR", "FS", "OFS", "ORS", "RS", "FILENAME", "SUBSEP", "CONVFMT", "OFMT", "RSTART", "RLENGTH", "ARGC",
    "ARGV", "ENVIRON"]

/-! ## Tokens -/

/-- The next token. -/
def peek : RecordRead RecordToken := return ((← get).rest.head?.map (·.token)).getD .stop

/-- The token after the next one. -/
def peekSecond : RecordRead RecordToken := return (((← get).rest.drop 1).head?.map (·.token)).getD .stop

/-- The line at hand. -/
def line : RecordRead Nat := return ((← get).rest.head?.map (·.line)).getD 1

/-- Something is wrong at the line at hand. -/
def fault (text : Octets) : RecordRead α := do throw ⟨some (← line), text⟩

/-- The next token cannot stand here. -/
def unexpected : RecordRead α := do
  let s ← get
  let shown := (s.rest.head?.map (·.shown)).getD []
  match ← peek with
  | .stop =>
    if 0 < s.parens then fault ("missing ) near ".toList ++ shown)
    else if 0 < s.braces then fault ("missing \x7d near ".toList ++ shown)
    else fault ("syntax error at or near ".toList ++ shown)
  | token =>
    let ends := token = .newline || token = .sign ";" || token = .sign "\x7d"
    if ends && 0 < s.parens then fault ("missing ) near ".toList ++ shown)
    else if token = .sign ")" && s.parens = 0 then fault "extra ')'".toList
    else if token = .sign "\x7d" && s.braces = 0 then fault "extra '\x7d'".toList
    else fault ("syntax error at or near ".toList ++ shown)

/-- Go past a token. -/
def advance : RecordRead Unit := modify fun s =>
  match s.rest with
  | t :: rest =>
    let s := { s with rest }
    match t.token with
    | .sign "(" => { s with parens := s.parens + 1 }
    | .sign ")" => { s with parens := s.parens - 1 }
    | .sign "\x7b" => { s with braces := s.braces + 1 }
    | .sign "\x7d" => { s with braces := s.braces - 1 }
    | _ => s
  | [] => s

/-- The next token is a sign; go past it if it is. -/
def takeSign (sign : String) : RecordRead Bool := do
  if (← peek) = .sign sign then
    advance
    pure true
  else pure false

/-- Go past a sign, which has to be there. -/
def needSign (sign : String) : RecordRead Unit := do
  if !(← takeSign sign) then unexpected

/-- Go past newlines. -/
def skipNewlines : RecordRead Unit := modify fun s => { s with rest := s.rest.dropWhile (·.token = .newline) }

/-- Go past newlines and semicolons. -/
def skipEnds : RecordRead Unit :=
  modify fun s => { s with rest := s.rest.dropWhile fun t => t.token = .newline || t.token = .sign ";" }

/-- A statement ends here. -/
def atEnd : RecordRead Bool := do
  let token ← peek
  pure (token = .newline || token = .sign ";" || token = .sign "\x7d" || token = .stop)

/-- Go past the end of a statement. -/
def takeEnd : RecordRead Unit := do
  match ← peek with
  | .newline => skipNewlines
  | .sign ";" => do
    advance
    skipNewlines
  | .sign "\x7d" => pure ()
  | _ => unexpected

/-! ## Names -/

/-- A name as a variable, which may be known to be a table or to be none. -/
def nameOf (name : Octets) (use : Option NameUse) : RecordRead RecordName := do
  let s ← get
  match (s.given.getD []).findIdx? (· = name) with
  | some n => pure (.own n)
  | none =>
    if (s.routines.lookup name).isSome then fault ("illegal reference to function ".toList ++ name)
    match s.shared.findIdx? (·.name = name) with
    | some n => do
      let known := (s.shared[n]?).bind (·.use)
      match known, use with
      | some .table, some .plain => fault ("illegal reference to array ".toList ++ name)
      | some .plain, some .table => fault ("illegal reference to variable ".toList ++ name)
      | _, _ => pure ()
      set { s with shared := s.shared.set! n ⟨name, known.or use⟩ }
      pure (.shared n)
    | none => do
      set { s with shared := s.shared.push ⟨name, use⟩ }
      pure (.shared s.shared.size)

/-- A name that is a table. -/
def needTable : RecordRead RecordName := do
  match ← peek with
  | .name name _ => do
    let v ← nameOf name (some .table)
    advance
    pure v
  | _ => unexpected

/-- Take note that a variable is a table. -/
def markTable : RecordName → RecordRead Unit
  | .own _ => pure ()
  | .shared n => do
    match (← get).shared[n]? with
    | some s => do
      let _ ← nameOf s.name (some .table)
    | none => pure ()

/-- A pattern. -/
def patternOf (cs : Octets) : RecordRead TextPattern := do
  match TextPattern.ofText { extended := true, strict := true } cs with
  | .ok p => pure p
  | .error f => fault ("regular expression compile failed (".toList ++ words f ++ ")\n".toList ++ cs)
where
  /-- What is wrong with a pattern. -/
  words : TextPattern.Fault → Octets
    | .openGroup => "missing ')'".toList
    | .closedGroup => "missing '('".toList
    | .nothingBefore => "missing operand".toList
    | _ => "bad class -- [], [^] or [".toList

/-- How many values a function wants, at least and at most. -/
def countsOf : RecordFunction → Nat × Nat
  | .length => (0, 1)
  | .substring => (2, 3)
  | .printed => (1, 255)
  | .split => (2, 3)
  | .replace => (2, 3)
  | .replaceAll => (2, 3)
  | .index => (2, 2)
  | .find => (2, 2)
  | .angle => (2, 2)
  | .random => (0, 0)
  | .seed => (0, 1)
  | .flush => (0, 1)
  | .moment => (0, 0)
  | _ => (1, 1)

/-- Signs that set a place, with what is done before. -/
def settingSigns : List (String × Option RecordSum) :=
  [("=", none), ("+=", some .plus), ("-=", some .minus), ("*=", some .times), ("/=", some .over), ("%=", some .rest),
    ("^=", some .power)]

/-- Signs that compare. -/
def orderSigns : List (String × RecordOrder) :=
  [("<", .less), ("<=", .atMost), ("==", .equal), ("!=", .different), (">=", .atLeast), (">", .more)]

/-- A value may begin with this token after another value. -/
def startsValue : RecordToken → Bool
  | .number _ => true
  | .text _ => true
  | .pattern _ => true
  | .name .. => true
  | .function _ => true
  | .sign s => ["$", "!", "(", "++", "--"].contains s
  | _ => false

/-! ## Expressions -/

/-- Read one or more pieces with signs between them, from the left; `next` tells for a token how two pieces are put
together. -/
def chain (piece : RecordRead RecordExpr) (next : RecordToken → Option (RecordExpr → RecordExpr → RecordExpr))
    (newlines : Bool) : Nat → RecordExpr → RecordRead RecordExpr
  | 0, e => pure e
  | fuel + 1, e => do
    match next (← peek) with
    | some join => do
      advance
      if newlines then skipNewlines
      chain piece next newlines fuel (join e (← piece))
    | none => pure e

mutual

/-- Read expressions between commas up to a sign that closes them. -/
def list (close : String) : Nat → List RecordExpr → RecordRead (List RecordExpr)
  | 0, _ => unexpected
  | fuel + 1, seen => do
    let e ← expr false fuel
    if ← takeSign "," then
      skipNewlines
      list close fuel (e :: seen)
    else
      needSign close
      pure (e :: seen).reverse

/-- Read an expression. `printing` tells that the sign for more means something else. -/
def expr (printing : Bool) : Nat → RecordRead RecordExpr
  | 0 => unexpected
  | fuel + 1 => do
    let condition ← either printing fuel
    if ← takeSign "?" then
      let a ← expr printing fuel
      needSign ":"
      let b ← expr printing fuel
      pure (.choice condition a b)
    else pure condition

/-- Read conditions of which one has to hold. -/
def either (printing : Bool) : Nat → RecordRead RecordExpr
  | 0 => unexpected
  | fuel + 1 => do
    let first ← both printing fuel
    chain (both printing fuel) (fun t => if t = .sign "||" then some .either else none) true fuel first

/-- Read conditions that all have to hold. -/
def both (printing : Bool) : Nat → RecordRead RecordExpr
  | 0 => unexpected
  | fuel + 1 => do
    let first ← member printing fuel
    chain (member printing fuel) (fun t => if t = .sign "&&" then some .both else none) true fuel first

/-- Read a value that may be looked for in tables. -/
def member (printing : Bool) : Nat → RecordRead RecordExpr
  | 0 => unexpected
  | fuel + 1 => do
    let first ← fitting printing fuel
    memberOf fuel first

/-- Read the tables in which a value is looked for. -/
def memberOf : Nat → RecordExpr → RecordRead RecordExpr
  | 0, e => pure e
  | fuel + 1, e => do
    if (← peek) = .key "in" then
      advance
      let table ← needTable
      memberOf fuel (.hasKey [e] table)
    else pure e

/-- Read a value that may be compared with patterns. -/
def fitting (printing : Bool) : Nat → RecordRead RecordExpr
  | 0 => unexpected
  | fuel + 1 => do
    let first ← ordered printing fuel
    fittingTo printing fuel first

/-- Read the patterns with which a value is compared. A text that stands for a pattern is looked at here. -/
def fittingTo (printing : Bool) : Nat → RecordExpr → RecordRead RecordExpr
  | 0, e => pure e
  | fuel + 1, e => do
    let wanted := match ← peek with
      | .sign "~" => some true
      | .sign "!~" => some false
      | _ => none
    match wanted with
    | some wanted => do
      advance
      let right ← match ← ordered printing fuel with
        | .text cs => do pure (.pattern (← patternOf cs))
        | right => pure right
      fittingTo printing fuel (.fits wanted e right)
    | none => pure e

/-- Read values that are compared. -/
def ordered (printing : Bool) : Nat → RecordRead RecordExpr
  | 0 => unexpected
  | fuel + 1 => do
    let first ← joined printing fuel
    let next : RecordToken → Option (RecordExpr → RecordExpr → RecordExpr)
      | .sign s => if printing && s = ">" then none else (orderSigns.lookup s).map .order
      | _ => none
    chain (joined printing fuel) next false fuel first

/-- Read values that are put one after the other, or a place that is set. -/
def joined (printing : Bool) : Nat → RecordRead RecordExpr
  | 0 => unexpected
  | fuel + 1 => do
    let first ← added fuel
    let setting := match ← peek with
      | .sign s => settingSigns.lookup s
      | _ => none
    match first, setting with
    | .place p, some change => do
      advance
      let value ← expr printing fuel
      pure (match change with
        | none => .assign p value
        | some s => .change s p value)
    | _, _ => joinedTo fuel first

/-- Read values that are put after a value. -/
def joinedTo : Nat → RecordExpr → RecordRead RecordExpr
  | 0, e => pure e
  | fuel + 1, e => do
    if startsValue (← peek) then
      let next ← added fuel
      joinedTo fuel (.joined e next)
    else pure e

/-- Read a sum. -/
def added : Nat → RecordRead RecordExpr
  | 0 => unexpected
  | fuel + 1 => do
    let first ← multiplied fuel
    chain (multiplied fuel)
      (fun t => if t = .sign "+" then some (.sum .plus) else if t = .sign "-" then some (.sum .minus) else none)
      false fuel first

/-- Read a product. -/
def multiplied : Nat → RecordRead RecordExpr
  | 0 => unexpected
  | fuel + 1 => do
    let first ← signed fuel
    chain (signed fuel)
      (fun t => if t = .sign "*" then some (.sum .times) else if t = .sign "/" then some (.sum .over)
        else if t = .sign "%" then some (.sum .rest) else none)
      false fuel first

/-- Read a value with signs before it, or lines of a command. -/
def signed : Nat → RecordRead RecordExpr
  | 0 => unexpected
  | fuel + 1 => do
    match ← peek with
    | .sign "!" => do
      advance
      pure (.opposite (← signed fuel))
    | .sign "-" => do
      advance
      pure (.negative (← signed fuel))
    | .sign "+" => do
      advance
      pure (.positive (← signed fuel))
    | _ => do
      let first ← power fuel
      commandLines fuel first

/-- Read where lines of a command go. -/
def commandLines : Nat → RecordExpr → RecordRead RecordExpr
  | 0, e => pure e
  | fuel + 1, e => do
    if (← peek) = .sign "|" && (← peekSecond) = .key "getline" then
      advance
      advance
      let target ← lineTarget fuel
      commandLines fuel (.getLine (.command e) target)
    else pure e

/-- Read the place for a line, if there is one. -/
def lineTarget : Nat → RecordRead (Option RecordPlace)
  | 0 => pure none
  | fuel + 1 => do
    let here ← match ← peek with
      | .name _ called => pure (!called)
      | .sign "$" => pure true
      | _ => pure false
    if here then
      match ← primary fuel with
      | .place p => pure (some p)
      | _ => unexpected
    else pure none

/-- Read a power. -/
def power : Nat → RecordRead RecordExpr
  | 0 => unexpected
  | fuel + 1 => do
    let base ← stepped fuel
    if ← takeSign "^" then
      match ← peek with
      | .sign "-" => do
        advance
        pure (.sum .power base (.negative (← power fuel)))
      | .sign "+" => do
        advance
        pure (.sum .power base (← power fuel))
      | .sign "!" => do
        advance
        pure (.sum .power base (.opposite (← power fuel)))
      | _ => do pure (.sum .power base (← power fuel))
    else pure base

/-- Read a value that may be stepped up or down afterwards. -/
def stepped : Nat → RecordRead RecordExpr
  | 0 => unexpected
  | fuel + 1 => do
    let e ← primary fuel
    match e, ← peek with
    | .place p, .sign "++" => do
      advance
      pure (.step p false true)
    | .place p, .sign "--" => do
      advance
      pure (.step p false false)
    | e, _ => pure e

/-- Read the smallest expressions. -/
def primary : Nat → RecordRead RecordExpr
  | 0 => unexpected
  | fuel + 1 => do
    match ← peek with
    | .number x => do
      advance
      pure (.number x)
    | .text cs => do
      advance
      pure (.text cs)
    | .pattern cs => do
      let p ← patternOf cs
      advance
      pure (.pattern p)
    | .sign "(" => do
      advance
      let es ← list ")" fuel []
      match es with
      | [e] => pure e
      | es =>
        if (← peek) = .key "in" then
          advance
          pure (.hasKey es (← needTable))
        else unexpected
    | .sign "$" => do
      advance
      match ← peek with
      | .sign "-" => do
        advance
        pure (.place (.field (.negative (← primary fuel))))
      | _ => pure (.place (.field (← primary fuel)))
    | .sign "++" => steppedBefore true fuel
    | .sign "--" => steppedBefore false fuel
    | .key "getline" => do
      advance
      let target ← lineTarget fuel
      if ← takeSign "<" then
        let path ← power fuel
        pure (.getLine (.file path) target)
      else pure (.getLine .main target)
    | .function f => do
      advance
      function f fuel
    | .name name called => do
      if called then
        let at_ ← line
        advance
        advance
        let args ← if ← takeSign ")" then pure [] else list ")" fuel []
        modify fun s => { s with calls := (name, args.length, at_) :: s.calls }
        pure (.call name args)
      else if (← peekSecond) = .sign "[" then
        let table ← needTable
        advance
        pure (.place (.element table (← list "]" fuel [])))
      else
        let after ← peekSecond
        let isBare := after = .sign "," || after = .sign ")"
        let v ← nameOf name (if isBare then none else some .plain)
        advance
        pure (.place (.named v))
    | _ => unexpected

/-- Read a place that is stepped up or down before it is used. -/
def steppedBefore (up : Bool) : Nat → RecordRead RecordExpr
  | 0 => unexpected
  | fuel + 1 => do
    advance
    match ← primary fuel with
    | .place p => pure (.step p true up)
    | _ => unexpected

/-- Read what a function is given. -/
def function (f : RecordFunction) : Nat → RecordRead RecordExpr
  | 0 => unexpected
  | fuel + 1 => do
    if (← peek) ≠ .sign "(" then
      if f = .length then pure (.apply f []) else unexpected
    else
      let isEmpty := (← peekSecond) = .sign ")"
      advance
      let args ← if isEmpty then do
          advance
          pure []
        else list ")" fuel []
      let (least, most) := countsOf f
      if args.length < least || most < args.length then
        let name := ((RecordToken.functions.find? (·.2 = f)).map (·.1.toList)).getD []
        fault ("wrong number of arguments in call to ".toList ++ name)
      match f, args with
      | .split, [_, .place (.named v)] => markTable v
      | .split, [_, .place (.named v), _] => markTable v
      | .split, _ => unexpected
      | .replace, [_, _, .place _] => pure ()
      | .replace, [_, _, _] => unexpected
      | .replaceAll, [_, _, .place _] => pure ()
      | .replaceAll, [_, _, _] => unexpected
      | _, _ => pure ()
      pure (.apply f args)

end

end RecordRead

end Diagnostics.Sandbox
