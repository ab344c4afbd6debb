import Diagnostics.Sandbox.Script

/-!
# Reading a script

A script is read character by character. What an alias stands for is read before the rest, and a line that is
continued by a backslash is one line. A token that has been read may be given back.
-/

namespace Diagnostics.Sandbox

/-! ## Tokens -/

/-- What a redirection is before its word has been read. -/
inductive Arrow
  | file (use : FileUse)
  | duplicate
  | document (stripsTabs : Bool)
  deriving DecidableEq

/-- The words of the shell's own language. -/
inductive Keyword
  | bang | caseWord | doWord | doneWord | elifWord | elseWord | esacWord | fiWord | forWord | ifWord | inWord
  | thenWord | untilWord | whileWord | openBrace | closeBrace
  deriving DecidableEq

namespace Keyword

/-- The keywords as they are written. -/
def table : List (String × Keyword) :=
  [("!", .bang), ("case", .caseWord), ("do", .doWord), ("done", .doneWord), ("elif", .elifWord),
    ("else", .elseWord), ("esac", .esacWord), ("fi", .fiWord), ("for", .forWord), ("if", .ifWord),
    ("in", .inWord), ("then", .thenWord), ("until", .untilWord), ("while", .whileWord), ("\x7b", .openBrace),
    ("\x7d", .closeBrace)]

/-- The keyword that a text is. -/
def find? (cs : Octets) : Option Keyword := (table.find? fun (name, _) => name.toList = cs).map (·.2)

/-- The keyword as it is written. -/
def written (k : Keyword) : String := ((table.find? fun (_, other) => other = k).map (·.1)).getD ""

/-- The keyword ends a list of commands. -/
def endsList : Keyword → Bool
  | .doWord | .doneWord | .elifWord | .elseWord | .esacWord | .fiWord | .thenWord | .closeBrace => true
  | _ => false

end Keyword

/-- A token. -/
inductive Token
  | finish
  | newline
  | semicolon
  | ampersand
  | bothSign
  | eitherSign
  | bar
  | openParen
  | closeParen
  | endArm
  | redirection (descriptor : Nat) (arrow : Arrow)
  | word (w : Word) (hasQuotes : Bool)
  | keyword (k : Keyword)

namespace Token

/-- The token in complaints. -/
def described : Token → String
  | .finish => "end of file"
  | .newline => "newline"
  | .semicolon => "\";\""
  | .ampersand => "\"&\""
  | .bothSign => "\"&&\""
  | .eitherSign => "\"||\""
  | .bar => "\"|\""
  | .openParen => "\"(\""
  | .closeParen => "\")\""
  | .endArm => "\";;\""
  | .redirection .. => "redirection"
  | .word .. => "word"
  | .keyword k => "\"" ++ k.written ++ "\""

/-- The token ends a list of commands. -/
def endsList : Token → Bool
  | .finish | .closeParen | .endArm => true
  | .keyword k => k.endsList
  | _ => false

/-- The token is a keyword. -/
def isKeyword (k : Keyword) : Token → Bool
  | .keyword other => other = k
  | _ => false

end Token

/-! ## The reader -/

/-- What is done with the next token: newlines are skipped, keywords are looked for, aliases are replaced, or
the end of a document is read. -/
structure Checks where
  newlines : Bool := false
  keywords : Bool := false
  aliases : Bool := false
  endMark : Bool := false

/-- A document whose text is still to come. A literal one has quotes in its end mark. -/
structure PendingDocument where
  number : Nat
  endMark : Octets
  stripsTabs : Bool
  isLiteral : Bool

/-- The text of an alias that is being read. -/
structure AliasText where
  rest : List Char
  name : Octets
  endsBlank : Bool

/-- A script that is being read. A line that has ended is gone on from when more of the command is to come, which is
counted. -/
structure Reader where
  input : List Char
  line : Nat := 1
  hasEndedLine : Bool := false
  goneOn : Nat := 0
  aliasTexts : List AliasText := []
  endedAliases : List Octets := []
  token : Token := .newline
  isGivenBack : Bool := false
  checks : Checks := {}
  pending : List PendingDocument := []
  documents : Array Word := #[]
  aliases : List (Octets × Octets) := []
  hasMetEnd : Bool := false

/-- Reading, which may find a fault. -/
abbrev Reading := StateT Reader (Except ScriptFault)

namespace Reading

/-- The script cannot be read. -/
def fault (text : String) : Reading α := fun r => .error ⟨r.line, text, r.goneOn⟩

/-- A line has ended in the middle of something. -/
def countLine : Reading Unit := modify fun r => { r with line := r.line + 1, goneOn := r.goneOn + 1 }

/-- A line has ended, and perhaps the command with it. -/
def endLine : Reading Unit := modify fun r => { r with line := r.line + 1, hasEndedLine := true }

/-- The command has not ended with the line. -/
def goOn : Reading Unit := modify fun r =>
  if r.hasEndedLine then { r with hasEndedLine := false, goneOn := r.goneOn + 1 } else r

/-- Take the next character. After the text of an alias that ends with a blank the next word may be an alias,
too. -/
def nextFrom : List AliasText → Reader → Option Char × Reader
  | [], r =>
    match r.input with
    | [] => (none, { r with aliasTexts := [], hasMetEnd := true })
    | c :: rest => (some c, { r with aliasTexts := [], input := rest })
  | a :: below, r =>
    match a.rest with
    | c :: rest => (some c, { r with aliasTexts := { a with rest } :: below })
    | [] =>
      let r := { r with endedAliases := a.name :: r.endedAliases }
      nextFrom below (if a.endsBlank then { r with checks := { r.checks with aliases := true } } else r)

/-- Take the next character; none at the end. -/
def next : Reading (Option Char) := fun r => .ok (nextFrom r.aliasTexts { r with endedAliases := [] })

/-- Give a character back. -/
def giveBack : Option Char → Reading Unit
  | none => pure ()
  | some c => modify fun r =>
    match r.aliasTexts with
    | a :: below => { r with aliasTexts := { a with rest := c :: a.rest } :: below }
    | [] => { r with input := c :: r.input }

/-- Take the next character; a backslash and a newline before it mean nothing. `fuel` bounds the number of
lines that are joined. -/
def nextJoinedWith : Nat → Reading (Option Char)
  | 0 => next
  | fuel + 1 => do
    match ← next with
    | some '\\' =>
      match ← next with
      | some '\n' => countLine; nextJoinedWith fuel
      | c => giveBack c; pure (some '\\')
    | c => pure c

/-- A bound for the length of everything that is read. -/
def lengthLimit : Nat := 1099511627776

/-- Take the next character; a backslash and a newline before it mean nothing. -/
def nextJoined : Reading (Option Char) := nextJoinedWith lengthLimit

/-- Take characters while a condition holds, joining lines. -/
def takeJoinedWhile (p : Char → Bool) : Nat → List Char → Reading (List Char)
  | 0, seen => pure seen.reverse
  | fuel + 1, seen => do
    match ← nextJoined with
    | some c => if p c then takeJoinedWhile p fuel (c :: seen) else do giveBack (some c); pure seen.reverse
    | none => pure seen.reverse

/-- Go on with the text of an alias. -/
def enterAlias (name value : Octets) : Reading Unit := modify fun r =>
  let endsBlank := value.getLast?.any fun c => c == ' ' || c == '\t'
  { r with aliasTexts := { rest := value, name, endsBlank } :: r.aliasTexts }

/-- What an alias stands for, unless its text is being read, or has been read up to the last character taken. -/
def aliasOf (name : Octets) : Reading (Option Octets) := fun r =>
  let isUsed := r.endedAliases.contains name || r.aliasTexts.any (·.name == name)
  .ok (if isUsed then none else r.aliases.lookup name, r)

/-- Keep the text of a document. -/
def keepDocument (number : Nat) (w : Word) : Reading Unit := modify fun r =>
  { r with documents := r.documents.modify number fun _ => w }

/-- A document whose text is to come; its number. -/
def expectDocument (endMark : Octets) (stripsTabs isLiteral : Bool) : Reading Nat := do
  modifyGet fun r =>
    (r.documents.size, { r with
      documents := r.documents.push []
      pending := r.pending ++ [{ number := r.documents.size, endMark, stripsTabs, isLiteral }] })

end Reading

end Diagnostics.Sandbox
