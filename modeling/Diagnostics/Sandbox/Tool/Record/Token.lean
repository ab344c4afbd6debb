import Diagnostics.Sandbox.Tool.Record.Program

/-!
# Tokens of programs for records

The text of a program is taken apart into words, numbers, texts, patterns and signs. A slash begins a pattern unless
something comes before it that can be divided.
-/

namespace Diagnostics.Sandbox

/-- What is wrong with a program: the line where that shows, and the fault in words. -/
structure RecordFault where
  line : Option Nat
  text : Octets

/-- A piece of a program. -/
inductive RecordToken
  | number (x : Float)
  | text (cs : Octets)
  | pattern (cs : Octets)
  | name (cs : Octets) (called : Bool)
  | function (f : RecordFunction)
  | key (word : String)
  | sign (s : String)
  | newline
  | stop
  deriving DecidableEq

/-- A piece of a program, its line, and how it is shown in complaints. -/
structure PlacedToken where
  token : RecordToken
  line : Nat
  shown : Octets

namespace RecordToken

/-- Words of the language. -/
def keys : List String :=
  ["BEGIN", "END", "break", "continue", "delete", "do", "else", "exit", "for", "function", "getline", "if", "in", "next",
    "nextfile", "print", "printf", "return", "while"]

/-- Names of functions. -/
def functions : List (String × RecordFunction) :=
  [("length", .length), ("index", .index), ("substr", .substring), ("sprintf", .printed), ("split", .split),
    ("match", .find), ("sub", .replace), ("gsub", .replaceAll), ("tolower", .lower), ("toupper", .upper), ("sin", .sine),
    ("cos", .cosine), ("atan2", .angle), ("exp", .exponential), ("log", .logarithm), ("sqrt", .root), ("int", .whole),
    ("rand", .random), ("srand", .seed), ("system", .system), ("close", .close), ("fflush", .flush),
    ("systime", .moment)]

/-- Signs, the longer ones first. -/
def signs : List String :=
  ["&&", "||", "==", "!=", "<=", ">=", ">>", "!~", "++", "--", "+=", "-=", "*=", "/=", "%=", "^=", "<", ">", "=", "!",
    "~", "+", "-", "*", "/", "%", "^", "?", ":", ",", ";", "(", ")", "[", "]", "\x7b", "\x7d", "$", "|"]

/-- After this something can be divided. -/
def isOperand : RecordToken → Bool
  | .number _ => true
  | .text _ => true
  | .pattern _ => true
  | .name .. => true
  | .function f => f = .length
  | .sign s => [")", "]", "++", "--", "$"].contains s
  | _ => false

/-- A character of a name. -/
def isNameChar (c : Char) : Bool := c.isAlphanum || c == '_'

/-- A text after its first quote up to its last one, and what follows it. -/
def takeText : Nat → Octets → List Octets → Option (Octets × Octets)
  | 0, _, _ => none
  | _, [], _ => none
  | fuel + 1, c :: rest, seen =>
    if c = '"' then some (seen.reverse.flatten, rest)
    else if c = '\n' then none
    else
      match c, rest with
      | '\\', '\n' :: more => takeText fuel more seen
      | '\\', d :: more => takeText fuel more (['\\', d] :: seen)
      | c, rest => takeText fuel rest ([c] :: seen)

/-- A text with its escapes replaced; those that mean nothing stay as they are. -/
def unescaped : Nat → Octets → Octets
  | 0, cs => cs
  | _, [] => []
  | fuel + 1, '\\' :: c :: rest =>
    if c = '"' then c :: unescaped fuel rest
    else if isOctal c then
      let (d, rest) := takeOctet 8 3 (c :: rest)
      d :: unescaped fuel rest
    else if c = 'e' then '\\' :: c :: unescaped fuel rest
    else
      match letterEscape? c with
      | some d => d :: unescaped fuel rest
      | none => '\\' :: c :: unescaped fuel rest
  | fuel + 1, c :: rest => c :: unescaped fuel rest

/-- A pattern after its first slash up to its last one, and what follows it. A slash in brackets does not end it. -/
def takePattern : Nat → Bool → Octets → List Octets → Option (Octets × Octets)
  | 0, _, _, _ => none
  | _, _, [], _ => none
  | fuel + 1, inside, c :: rest, seen =>
    if c = '/' && !inside then some (seen.reverse.flatten, rest)
    else if c = '\n' then none
    else
      match inside, c, rest with
      | inside, '\\', '/' :: more => takePattern fuel inside more (['/'] :: seen)
      | inside, '\\', '\n' :: more => takePattern fuel inside more seen
      | inside, '\\', d :: more => takePattern fuel inside more (['\\', d] :: seen)
      | false, '[', '^' :: ']' :: more => takePattern fuel true more ("[^]".toList :: seen)
      | false, '[', ']' :: more => takePattern fuel true more ("[]".toList :: seen)
      | true, '[', ':' :: more =>
        let name := more.takeWhile Char.isAlpha
        takePattern fuel true (more.drop (name.length + 2)) ((more.take (name.length + 2)) :: "[:".toList :: seen)
      | inside, c, rest => takePattern fuel ((inside && c != ']') || (!inside && c = '[')) rest ([c] :: seen)

/-- So much is shown of what has no end. -/
def shownOfEndless : Nat := 10

/-- The number at the beginning of a text, and what follows it. -/
def takeFloat (cs : Octets) : Option (Float × Octets) :=
  (takePointed 10 cs).map fun (n, places, rest) =>
    let (e, rest) := takeExponent 'e' rest
    let e := max (-exponentLimit) (min exponentLimit e) - places
    (Float.ofScientific n (e < 0) e.natAbs, rest)

/-- The next token after blanks, and what follows it; `before` is the token before. Nothing is left at the end. -/
def next (before : RecordToken) (cs : Octets) (line : Nat) : Except RecordFault (Option (RecordToken × Octets)) :=
  match cs with
  | [] => .ok none
  | '\n' :: rest => .ok (some (.newline, rest))
  | '"' :: rest =>
    match takeText (rest.length + 1) rest [] with
    | some (cs, rest) => .ok (some (.text (unescaped (cs.length + 1) cs), rest))
    | none => .error ⟨some line, "runaway string constant \"".toList ++ rest.take shownOfEndless ++ " ...".toList⟩
  | c :: rest =>
    if c = '/' && !before.isOperand then
      match takePattern (rest.length + 1) false rest [] with
      | some (p, rest) => .ok (some (.pattern p, rest))
      | none => .error ⟨some line, "runaway regular expression /".toList ++ rest.take shownOfEndless ++ " ...".toList⟩
    else if c.isDigit || (c = '.' && rest.head?.any Char.isDigit) then
      .ok ((takeFloat cs).map fun (x, rest) => (.number x, rest))
    else if isNameChar c then
      let word := cs.takeWhile isNameChar
      let rest := cs.drop word.length
      let text := String.ofList word
      if keys.contains text then .ok (some (.key text, rest))
      else
        match functions.lookup text with
        | some f => .ok (some (.function f, rest))
        | none => .ok (some (.name word (rest.head? = some '('), rest))
    else
      match signs.find? fun s => s.toList.isPrefixOf cs with
      | some s => .ok (some (.sign s, cs.drop s.length))
      | none => .error ⟨none, (toString line).toList ++ ": unexpected character '".toList ++ [c, '\'']⟩

/-- Skip blanks, comments and newlines that a backslash takes away; what is left, and the line. -/
def skip : Nat → Octets → Nat → Octets × Nat
  | 0, cs, line => (cs, line)
  | fuel + 1, cs, line =>
    match cs with
    | '\\' :: '\n' :: rest => skip fuel rest (line + 1)
    | '\\' :: '\r' :: '\n' :: rest => skip fuel rest (line + 1)
    | '#' :: rest => skip fuel (rest.dropWhile (· != '\n')) line
    | c :: rest => if c = ' ' || c = '\t' || c = '\r' then skip fuel rest line else (cs, line)
    | [] => ([], line)

/-- How a token is shown in complaints. -/
def shownText : RecordToken → Octets → Octets
  | .newline, _ => "end of line".toList
  | .stop, _ => "end of file".toList
  | .text cs, _ => cs
  | .pattern cs, _ => '/' :: cs ++ ['/']
  | _, cs => cs

/-- The tokens of a text. -/
def readWith : Nat → RecordToken → Octets → Nat → List PlacedToken → Except RecordFault (List PlacedToken)
  | 0, _, _, _, seen => .ok seen.reverse
  | fuel + 1, before, cs, line, seen => do
    let (cs, line) := skip (cs.length + 1) cs line
    match ← next before cs line with
    | none => .ok (⟨.stop, line, shownText .stop []⟩ :: seen).reverse
    | some (token, rest) =>
      let shown := shownText token (cs.take (cs.length - rest.length))
      let after := line + (if token = .newline then 1 else 0)
      readWith fuel token rest after (⟨token, line, shown⟩ :: seen)

/-- The tokens of a program, which ends with a line. -/
def ofText (cs : Octets) : Except RecordFault (List PlacedToken) :=
  let cs := if cs.getLast? = some '\n' then cs else cs ++ ['\n']
  readWith (cs.length + 2) .newline cs 1 []

end RecordToken

end Diagnostics.Sandbox
