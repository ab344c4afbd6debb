import Diagnostics.Text.Numeral

/-!
# Options

An option has a long name and perhaps a letter. It is a flag, a flag that counts how often it is given, or it
takes a value: the next word, or what follows an equals sign. A value that begins with a hyphen is taken from
the next word only if the option says so.
-/

namespace Diagnostics.Cli

/-- What next words that begin with a hyphen an option takes as its value. -/
inductive Hyphens
  | none
  | numbers
  | all
  deriving DecidableEq

/-- Which texts are values. -/
inductive ValueKind
  | text
  | path
  | integer
  deriving DecidableEq

/-- What an option does when it is given. -/
inductive OptionKind
  | flag
  | count
  | value (kind : ValueKind) (hyphens : Hyphens) (repeated : Bool)
  | help
  | version
  deriving DecidableEq

/-- An option. -/
structure OptionSpec where
  name : String
  letter : Option Char := none
  kind : OptionKind
  deriving DecidableEq

/-- What a command takes: its options, and the names of its arguments. -/
structure CommandSpec where
  name : String
  options : List OptionSpec
  arguments : List (String × ValueKind)
  required : List String := []

/-- A text is a value. -/
def ValueKind.accepts (kind : ValueKind) (s : String) : Bool :=
  match kind with
  | text => true
  | path => !s.isEmpty
  | integer => (Numeral.readSigned? s).isSome

/-- A number after its minus sign: digits with at most one point among them, and an exponent. -/
def isUnsignedNumber (cs : List Char) : Bool :=
  let mantissa := cs.takeWhile (fun c => c != 'e' && c != 'E')
  let exponent := cs.dropWhile (fun c => c != 'e' && c != 'E')
  mantissa.head?.any Char.isDigit && mantissa.all (fun c => c.isDigit || c == '.')
    && mantissa.count '.' ≤ 1
    && (exponent.isEmpty || (1 < exponent.length && (exponent.drop 1).all Char.isDigit))

/-- An option that waits for its value takes the word. -/
def Hyphens.take (h : Hyphens) (word : List Char) : Bool :=
  match word with
  | '-' :: rest =>
    if rest.isEmpty then true
    else
      match h with
      | none => false
      | numbers => isUnsignedNumber rest
      | all => true
  | _ => true

/-- Why reading the command line ends before there is a command: it is wrong, or only wants to know. -/
inductive Stop
  | usage
  | help
  | version
  deriving DecidableEq

/-- The values that options and arguments were given, latest first. -/
abbrev Matches := List (String × String)

namespace Matches

/-- All values of an option, in order. -/
def all (m : Matches) (name : String) : List String := (m.filter (·.1 = name)).reverse.map (·.2)

/-- The value of an option. -/
def get? (m : Matches) (name : String) : Option String := m.lookup name

/-- The option was given. -/
def has (m : Matches) (name : String) : Bool := (m.lookup name).isSome

/-- Take in a value. -/
def addValue (m : Matches) (name : String) (kind : ValueKind) (repeated : Bool) (s : String) :
    Except Stop Matches :=
  if !repeated && m.has name then .error .usage
  else if kind.accepts s then .ok ((name, s) :: m)
  else .error .usage

/-- Take in an option without a value. -/
def addFlag (m : Matches) (o : OptionSpec) : Except Stop Matches :=
  match o.kind with
  | .flag => if m.has o.name then .error .usage else .ok ((o.name, "") :: m)
  | .count => .ok ((o.name, "") :: m)
  | .help => .error .help
  | .version => .error .version
  | .value .. => .error .usage

end Matches

/-! ## Reading words -/

/-- What a word leads to: values taken in, or an option that waits for its value. -/
structure Taken where
  found : Matches
  waiting : Option (String × ValueKind × Hyphens × Bool) := none

/-- Take in an option by its long name, with what follows an equals sign. -/
def takeLong (options : List OptionSpec) (m : Matches) (word : List Char) : Except Stop Taken :=
  let name := String.ofList (word.takeWhile (· != '='))
  match options.find? (·.name = name), word.dropWhile (· != '=') with
  | none, _ => .error .usage
  | some o, '=' :: value =>
    match o.kind with
    | .value kind _ repeated => (m.addValue o.name kind repeated (String.ofList value)).map fun found => { found }
    | _ => .error .usage
  | some o, _ =>
    match o.kind with
    | .value kind hyphens repeated => .ok { found := m, waiting := some (o.name, kind, hyphens, repeated) }
    | _ => (m.addFlag o).map fun found => { found }

/-- Take in letters after a hyphen. No option with a value has a letter. -/
def takeLetters (options : List OptionSpec) (m : Matches) : List Char → Except Stop Matches
  | [] => .ok m
  | c :: rest =>
    match options.find? (·.letter = some c) with
    | none => .error .usage
    | some o => do takeLetters options (← m.addFlag o) rest

/-- Take in an argument. -/
def takeArgument (arguments : List (String × ValueKind)) (m : Matches) (word : String) : Except Stop Matches :=
  match arguments.find? fun a => !m.has a.1 with
  | some (name, kind) => m.addValue name kind false word
  | none => .error .usage

/-- Read the words of a command. The end of them may be another command, whose words are left. -/
def readWords (c : CommandSpec) (commands : List String) (verbatim : Bool) (t : Taken) :
    List String → Except Stop (Matches × List String)
  | [] => if t.waiting.isSome then .error .usage else .ok (t.found, [])
  | word :: rest =>
    match t.waiting, word.toList with
    | some (name, kind, hyphens, repeated), cs =>
      if hyphens.take cs then do
        readWords c commands verbatim { found := ← t.found.addValue name kind repeated word } rest
      else .error .usage
    | none, '-' :: '-' :: cs =>
      if verbatim then do
        readWords c commands verbatim { found := ← takeArgument c.arguments t.found word } rest
      else if cs.isEmpty then readWords c commands true t rest
      else do readWords c commands verbatim (← takeLong c.options t.found cs) rest
    | none, '-' :: d :: cs =>
      if verbatim then do
        readWords c commands verbatim { found := ← takeArgument c.arguments t.found word } rest
      else do readWords c commands verbatim { found := ← takeLetters c.options t.found (d :: cs) } rest
    | none, _ =>
      if !verbatim && commands.contains word then .ok (t.found, word :: rest)
      else do readWords c commands verbatim { found := ← takeArgument c.arguments t.found word } rest

/-- Read the words of a command, which must give all that the command requires. -/
def readCommand (c : CommandSpec) (words : List String) : Except Stop Matches := do
  let (m, _) ← readWords c [] false { found := [] } words
  if c.required.all m.has then pure m else .error .usage

end Diagnostics.Cli
