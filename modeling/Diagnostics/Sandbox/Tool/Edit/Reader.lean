import Diagnostics.Sandbox.Tool.Edit.Script

/-!
# Reading scripts for editing

A script is read from left to right, and what is wrong with it is told together with how far it had been read. Parts of
a script may come from several places; they are read as one text, with newlines between them.
-/

namespace Diagnostics.Sandbox

/-- Why a script cannot be read, and how far it had been read; where nothing else is told it is the script as a
whole that is wrong. -/
structure EditFault where
  place : Option Nat
  text : Octets

/-- A script that is being read. Blocks that have been opened are known by the places of their rules. -/
structure EditReader where
  rest : Octets
  place : Nat := 0
  extended : Bool := false
  script : EditScript := {}
  blocks : List Nat := []

/-- Reading a script. -/
abbrev EditRead := StateT EditReader (Except EditFault)

namespace EditRead

/-! ## Characters -/

/-- Stop with a complaint. -/
def stop (text : Octets) : EditRead α := do
  let s ← get
  throw ⟨some s.place, text⟩

/-- Stop with a complaint. -/
def stopWith (text : String) : EditRead α := stop text.toList

/-- The next character. -/
def next? : EditRead (Option Char) := do
  let s ← get
  match s.rest with
  | [] => pure none
  | c :: rest => do
    set { s with rest, place := s.place + 1 }
    pure (some c)

/-- Give a character back. -/
def giveBack : Option Char → EditRead Unit
  | none => pure ()
  | some c => modify fun s => { s with rest := c :: s.rest, place := s.place - 1 }

/-- Take characters while a condition holds. -/
def takeWhile (p : Char → Bool) : EditRead Octets := do
  let s ← get
  let taken := s.rest.takeWhile p
  set { s with rest := s.rest.drop taken.length, place := s.place + taken.length }
  pure taken

/-- A character that only separates others on a line. -/
def isGap (c : Char) : Bool := c == ' ' || c == '\t'

/-- A character that only separates others. -/
def isSpace (c : Char) : Bool := c == ' ' || ('\x09' ≤ c && c ≤ '\x0d')

/-- The next character that is no gap. -/
def nextInk? : EditRead (Option Char) := do
  let _ ← takeWhile isGap
  next?

/-- The number that begins with a digit. -/
def numberFrom (c : Char) : EditRead Nat := do
  let more ← takeWhile Char.isDigit
  pure ((c :: more).foldl (fun n d => 10 * n + (d.toNat - '0'.toNat)) 0)

/-- The end of a command. -/
def endCommand : EditRead Unit := do
  match ← nextInk? with
  | none => pure ()
  | some c =>
    if c = '\x7d' || c = '#' then giveBack (some c)
    else if c ≠ '\n' && c ≠ ';' then stopWith "extra characters after command"

/-- A name of a label. -/
def label : EditRead Octets := do
  let _ ← takeWhile isGap
  takeWhile fun c => !isSpace c && c != ';' && c != '\x7d'

/-- A name of a file, up to the end of the line. -/
def path : EditRead Octets := do
  let _ ← takeWhile isGap
  let cs ← takeWhile (· != '\n')
  let _ ← next?
  if cs.isEmpty then stopWith "missing filename in r/R/w/W commands" else pure cs

/-- Where a command writes to. -/
def target : EditRead EditTarget := do
  let cs ← path
  pure <| if cs = "/dev/stdout".toList then .output else if cs = "/dev/stderr".toList then .complaints else .file cs

/-! ## Escapes -/

/-- A character by its number, which has so many digits at most. -/
def numbered? (base count : Nat) (cs : Octets) : Option (Char × Octets) :=
  let digits := cs.take count
  let (n, rest) := takeNumeral base 0 digits
  if rest.length = digits.length then none else some (Char.ofNat (n % 256), rest ++ cs.drop count)

/-- Characters for the escapes that stand for one, whatever they are written in. An escape in a replacement that gives
a sign keeps it from meaning something. -/
def withoutEscapes (isReplacement : Bool) : Nat → Octets → Octets
  | 0, cs => cs
  | fuel + 1, cs =>
    match cs with
    | '\\' :: c :: rest =>
      let coded (base count : Nat) : Octets :=
        match numbered? base count rest with
        | some (d, rest) =>
          (if (isReplacement && (d = '&' || d = '\n')) || d = '\\' then ['\\', d] else [d])
            ++ withoutEscapes isReplacement fuel rest
        | none => '\\' :: c :: withoutEscapes isReplacement fuel rest
      match c with
      | 'a' => '\x07' :: withoutEscapes isReplacement fuel rest
      | 'f' => '\x0c' :: withoutEscapes isReplacement fuel rest
      | 'r' => '\r' :: withoutEscapes isReplacement fuel rest
      | 't' => '\t' :: withoutEscapes isReplacement fuel rest
      | 'v' => '\x0b' :: withoutEscapes isReplacement fuel rest
      | 'd' => coded 10 3
      | 'o' => coded 8 3
      | 'x' => coded 16 2
      | 'c' =>
        match rest with
        | d :: rest => Char.ofNat (d.toUpper.toNat ^^^ 0x40) :: withoutEscapes isReplacement fuel rest
        | [] => ['\\']
      | c => '\\' :: c :: withoutEscapes isReplacement fuel rest
    | c :: rest => c :: withoutEscapes isReplacement fuel rest
    | [] => []

/-- A text without the backslashes that keep characters from meaning something. -/
def withoutBackslashes : Octets → Octets
  | '\\' :: c :: rest => c :: withoutBackslashes rest
  | '\\' :: [] => []
  | c :: rest => c :: withoutBackslashes rest
  | [] => []

/-! ## Texts between delimiters -/

/-- What stands in a bracket after its first sign, as it is written, and the rest. -/
def bracketText (cs : Octets) : Option (Octets × Octets) :=
  let (start, cs) := match cs with
    | '^' :: ']' :: rest => (['^', ']'], rest)
    | '^' :: rest => (['^'], rest)
    | ']' :: rest => ([']'], rest)
    | rest => ([], rest)
  let rec go : Nat → Octets → Octets → Option (Octets × Octets)
    | 0, _, _ => none
    | fuel + 1, seen, cs =>
      match cs with
      | [] => none
      | '\n' :: _ => none
      | ']' :: rest => some ((']' :: seen).reverse, rest)
      | '\\' :: 'n' :: rest => go fuel ('\n' :: seen) rest
      | '\\' :: '\\' :: rest => go fuel ('\\' :: '\\' :: seen) rest
      | '[' :: sign :: rest =>
        if sign = ':' || sign = '.' || sign = '=' then
          match TextPattern.named? sign rest with
          | some (name, rest) => go fuel (([sign] ++ name ++ [sign, ']']).reverse ++ '[' :: seen) rest
          | none => none
        else go fuel ('[' :: seen) (sign :: rest)
      | c :: rest => go fuel (c :: seen) rest
  go (cs.length + 1) start.reverse cs

/-- The text up to a delimiter; none if the line ends before. A delimiter with a backslash is part of the text. -/
def delimited (delimiter : Char) (isPattern : Bool) : Nat → Octets → EditRead (Option Octets)
  | 0, _ => pure none
  | fuel + 1, seen => do
    match ← next? with
    | none => pure none
    | some '\n' => do
      giveBack (some '\n')
      pure none
    | some c =>
      if c = delimiter then pure (some seen.reverse)
      else if c = '\\' then
        match ← next? with
        | none => pure none
        | some d =>
          if d = 'n' && isPattern then delimited delimiter isPattern fuel ('\n' :: seen)
          else if d = '\n' || (d = delimiter && (isPattern || d ≠ '&')) then
            delimited delimiter isPattern fuel (d :: seen)
          else delimited delimiter isPattern fuel (d :: '\\' :: seen)
      else if c = '[' && isPattern then
        let s ← get
        match bracketText s.rest with
        | some (inside, rest) => do
          set { s with rest, place := s.place + (s.rest.length - rest.length) }
          delimited delimiter isPattern fuel (inside.reverse ++ '[' :: seen)
        | none => do
          let _ ← takeWhile (· != '\n')
          pure none
      else delimited delimiter isPattern fuel (c :: seen)

/-- The text up to a delimiter; none if the line ends before. -/
def delimitedText (delimiter : Char) (isPattern : Bool) : EditRead (Option Octets) := do
  let s ← get
  delimited delimiter isPattern (s.rest.length + 1) []

/-- A pattern from its text; an empty one is the one that was used last. -/
def patternOf (cs : Octets) (folds lines : Bool) : EditRead (Option EditPattern) := do
  if cs.isEmpty then
    if folds || lines then stopWith "cannot specify modifiers on empty regexp" else pure none
  else
    let s ← get
    let style : PatternStyle := { extended := s.extended, folds, lines, strict := true }
    match TextPattern.ofText style (withoutEscapes false (cs.length + 1) cs) with
    | .ok pattern => pure (some ⟨pattern, style⟩)
    | .error f => stopWith f.message

/-! ## Addresses -/

/-- Letters after a pattern, which tell how it is matched. -/
def patternLetters : Nat → Bool → Bool → EditRead (Bool × Bool)
  | 0, folds, lines => pure (folds, lines)
  | fuel + 1, folds, lines => do
    match ← nextInk? with
    | some 'I' => patternLetters fuel true lines
    | some 'M' => patternLetters fuel folds true
    | c => do
      giveBack c
      pure (folds, lines)

/-- A number that follows, or zero. -/
def laterNumber : EditRead Nat := do
  match ← nextInk? with
  | some c => if c.isDigit then numberFrom c else do
      giveBack (some c)
      pure 0
  | none => pure 0

/-- An address that begins with a character. -/
def address? (c : Option Char) : EditRead (Option RangeEnd) := do
  match c with
  | none => pure none
  | some '$' => pure (some (.at .last))
  | some '+' => return some (.plus (← laterNumber))
  | some '~' => return some (.multiple (← laterNumber))
  | some c =>
    if c = '/' || c = '\\' then
      let delimiter ← if c = '/' then pure (some '/') else next?
      match ← delimitedText (delimiter.getD '\n') true with
      | none => stopWith "unterminated address regex"
      | some cs => do
        let s ← get
        let (folds, lines) ← patternLetters (s.rest.length + 1) false false
        return some (.at (.pattern (← patternOf cs folds lines)))
    else if c.isDigit then
      let n ← numberFrom c
      match ← nextInk? with
      | some '~' => do
        let step ← laterNumber
        pure (some (.at (if step = 0 then .number n else .step n step)))
      | d => do
        giveBack d
        pure (some (.at (.number n)))
    else pure none

/-- The rule that an address begins, and the first character of its command. -/
def addresses : EditRead (EditRule × Option Char) := do
  let none : EditRule := { action := .nothing }
  let c ← nextInk?
  match ← address? c with
  | .none => pure (none, c)
  | some (.at a) => do
    let c ← nextInk?
    let (rule, c) ← if c = some ',' then do
        match ← address? (← nextInk?) with
        | .none => stopWith "unexpected `,'"
        | some stop => pure ({ none with start := some a, stop := some stop }, ← nextInk?)
      else pure ({ none with start := some a }, c)
    match a, rule.stop with
    | .number 0, some (.at (.pattern _)) => pure (rule, c)
    | .number 0, _ => stopWith "invalid usage of line address 0"
    | _, _ => pure (rule, c)
  | some _ => stopWith "invalid usage of +N or ~N as first address"

/-! ## Commands -/

/-- A text that belongs to a command. It may begin on the line of the command, or after a backslash, and then keeps
the gaps at its start. -/
def commandText : EditRead Octets := do
  match ← nextInk? with
  | none => stopWith "expected \\ after `a', `c' or `i'"
  | some '\\' => do
    match ← next? with
    | none => pure []
    | some c => do
      if c ≠ '\n' then giveBack (some c)
      lines
  | c => do
    giveBack c
    lines
where
  /-- The lines of the text, without the backslashes in them. -/
  lines : EditRead Octets := do
    let s ← get
    let cs ← go (s.rest.length + 1) []
    pure (withoutBackslashes (withoutEscapes false (cs.length + 1) cs))
  /-- The lines of the text; a backslash at the end of a line leads on to the next one. -/
  go : Nat → Octets → EditRead Octets
    | 0, seen => pure seen.reverse
    | fuel + 1, seen => do
      match ← next? with
      | none => pure ('\n' :: seen).reverse
      | some '\n' => pure ('\n' :: seen).reverse
      | some '\\' => do
        match ← next? with
        | none => pure ('\n' :: seen).reverse
        | some d => go fuel (d :: '\\' :: seen)
      | some c => go fuel (c :: seen)

/-- The pieces of a replacement. -/
def replacementOf : Nat → Octets → Octets → List ReplacementPiece
  | 0, _, _ => []
  | fuel + 1, seen, cs =>
    let text : List ReplacementPiece := if seen.isEmpty then [] else [.text seen.reverse]
    match cs with
    | [] => text
    | '&' :: rest => text ++ .group 0 :: replacementOf fuel [] rest
    | '\\' :: c :: rest =>
      if c.isDigit then text ++ .group (c.toNat - '0'.toNat) :: replacementOf fuel [] rest
      else
        match c with
        | 'L' => text ++ .keep .lower :: replacementOf fuel [] rest
        | 'U' => text ++ .keep .upper :: replacementOf fuel [] rest
        | 'E' => text ++ .keep .none :: replacementOf fuel [] rest
        | 'l' => text ++ .once .lower :: replacementOf fuel [] rest
        | 'u' => text ++ .once .upper :: replacementOf fuel [] rest
        | 'n' => replacementOf fuel ('\n' :: seen) rest
        | c => replacementOf fuel (c :: seen) rest
    | c :: rest => replacementOf fuel (c :: seen) rest

/-- What may follow a substitution. -/
structure SubstitutionLetters where
  folds : Bool := false
  lines : Bool := false
  isGlobal : Bool := false
  prints : Bool := false
  evaluates : Bool := false
  number : Option Nat := none
  target : Option EditTarget := none

/-- Letters after a substitution. -/
def substitutionLetters : Nat → SubstitutionLetters → EditRead SubstitutionLetters
  | 0, l => pure l
  | fuel + 1, l => do
    match ← next? with
    | none => pure l
    | some '\n' => pure l
    | some ';' => pure l
    | some '#' => do
      giveBack (some '#')
      pure l
    | some '\x7d' => do
      giveBack (some '\x7d')
      pure l
    | some 'i' => substitutionLetters fuel { l with folds := true }
    | some 'I' => substitutionLetters fuel { l with folds := true }
    | some 'm' => substitutionLetters fuel { l with lines := true }
    | some 'M' => substitutionLetters fuel { l with lines := true }
    | some 'e' => substitutionLetters fuel { l with evaluates := true }
    | some 'p' =>
      if l.prints then stopWith "multiple `p' options to `s' command"
      else substitutionLetters fuel { l with prints := true }
    | some 'g' =>
      if l.isGlobal then stopWith "multiple `g' options to `s' command"
      else substitutionLetters fuel { l with isGlobal := true }
    | some 'w' => do
      let t ← target
      pure { l with target := some t }
    | some c =>
      if isGap c then substitutionLetters fuel l
      else if c.isDigit then
        if l.number.isSome then stopWith "multiple number options to `s' command"
        else
          let n ← numberFrom c
          if n = 0 then stopWith "number option to `s' command may not be zero"
          else substitutionLetters fuel { l with number := some n }
      else stopWith "unknown option to `s'"

/-- A substitution after its letter. -/
def substitution : EditRead Substitution := do
  let unterminated : String := "unterminated `s' command"
  let some delimiter ← next? | stopWith unterminated
  let some pattern ← delimitedText delimiter true | stopWith unterminated
  let some replacement ← delimitedText delimiter false | stopWith unterminated
  let s ← get
  let l ← substitutionLetters (s.rest.length + 1) {}
  let p ← patternOf pattern l.folds l.lines
  let replacement := withoutEscapes true (replacement.length + 1) replacement
  let pieces := replacementOf (replacement.length + 1) [] replacement
  let greatest := pieces.foldl (fun n piece =>
    match piece with
    | .group k => max n k
    | _ => n) 0
  match p with
  | some p =>
    if p.pattern.groupCount < greatest then
      stop ("invalid reference \\".toList ++ (toString greatest).toList ++ " on `s' command's RHS".toList)
  | none => pure ()
  pure { pattern := p, replacement := pieces, isGlobal := l.isGlobal, number := l.number.getD 1, prints := l.prints
         evaluates := l.evaluates, target := l.target }

/-- The characters of a text in which only some follow a backslash. -/
def translated : Octets → Octets
  | '\\' :: '\\' :: rest => '\\' :: translated rest
  | '\\' :: 'n' :: rest => '\n' :: translated rest
  | c :: rest => c :: translated rest
  | [] => []

/-- A translation after its letter. -/
def translation : EditRead (List (Char × Char)) := do
  let unterminated : String := "unterminated `y' command"
  let some delimiter ← next? | stopWith unterminated
  let some source ← delimitedText delimiter false | stopWith unterminated
  let some wanted ← delimitedText delimiter false | stopWith unterminated
  let plain (cs : Octets) : Octets := translated (withoutEscapes false (cs.length + 1) cs)
  let (a, b) := (plain source, plain wanted)
  if a.length ≠ b.length then stopWith "strings for `y' command are different lengths"
  else
    endCommand
    pure (a.zip b)

/-- A status after a command, which may be left out. -/
def statusOf (rule : EditRule) : EditRead Nat := do
  if rule.stop.isSome then stopWith "command only uses one address"
  let n ← laterNumber
  endCommand
  pure n

/-- A width after a command, which may be left out. -/
def widthOf : EditRead (Option Nat) := do
  match ← nextInk? with
  | some c =>
    let width ← if c.isDigit then do pure (some (← numberFrom c)) else do
      giveBack (some c)
      pure none
    endCommand
    pure width
  | none => pure none

/-- Commands that are only a letter. -/
def letterAction? : Char → Option EditAction
  | '=' => some .number
  | 'd' => some .delete
  | 'D' => some .deleteLine
  | 'F' => some .fileName
  | 'g' => some .get
  | 'G' => some .getMore
  | 'h' => some .hold
  | 'H' => some .holdMore
  | 'n' => some .next
  | 'N' => some .nextMore
  | 'p' => some .print
  | 'P' => some .printLine
  | 'x' => some .exchange
  | 'z' => some .empty
  | _ => none

/-- Add a rule. -/
def add (rule : EditRule) : EditRead Unit := modify fun s =>
  { s with script := { s.script with rules := s.script.rules.push rule } }

/-- Read a comment. One that begins with an n at the very start makes the script quiet. -/
def comment : EditRead Unit := do
  let before ← get
  let cs ← takeWhile (· != '\n')
  if before.place = 1 && cs.head? = some 'n' then
    modify fun s => { s with script := { s.script with quiet := true } }

/-- Read the command of a rule. -/
def command (rule : EditRule) (c : Char) : EditRead Unit := do
  let s ← get
  let size := s.script.rules.size
  match c with
  | '#' => if rule.start.isSome then stopWith "comments don't accept any addresses" else comment
  | 'v' => do
    let version ← label
    if "4.9".toList.length < version.length || (version.headD '0') > '4' then
      stopWith "expected newer version of sed"
  | '\x7b' => do
    modify fun s => { s with blocks := size :: s.blocks }
    add { rule with action := .block 0 }
  | '\x7d' =>
    match s.blocks with
    | [] => stopWith "unexpected `\x7d'"
    | start :: blocks => do
      if rule.start.isSome then stopWith "`\x7d' doesn't want any addresses"
      endCommand
      modify fun s => { s with
        blocks
        script := { s.script with rules := s.script.rules.modify start fun r => { r with action := .block size } } }
      add { rule with action := .nothing }
  | 'a' => do add { rule with action := .appendText (← commandText) }
  | 'i' => do add { rule with action := .insertText (← commandText) }
  | 'c' => do add { rule with action := .changeText (← commandText) }
  | 'e' => do
    let _ ← takeWhile isGap
    let cs ← takeWhile (· != '\n')
    let _ ← next?
    add { rule with action := .evaluate cs }
  | ':' => do
    if rule.start.isSome then stopWith ": doesn't want any addresses"
    let name ← label
    if name.isEmpty then stopWith "\":\" lacks a label"
    modify fun s => { s with script := { s.script with labels := (name, size) :: s.script.labels } }
    add { rule with action := .nothing }
  | 'b' => do add { rule with action := .jump .always (← label) }
  | 't' => do add { rule with action := .jump .replaced (← label) }
  | 'T' => do add { rule with action := .jump .notReplaced (← label) }
  | 'q' => do add { rule with action := .quit (← statusOf rule) }
  | 'Q' => do add { rule with action := .leave (← statusOf rule) }
  | 'l' => do add { rule with action := .list (← widthOf) }
  | 'r' => do add { rule with action := .readFile (← path) }
  | 'R' => do add { rule with action := .readLine (← path) }
  | 'w' => do add { rule with action := .write (← target) }
  | 'W' => do add { rule with action := .writeLine (← target) }
  | 's' => do add { rule with action := .substitute (← substitution) }
  | 'y' => do add { rule with action := .translate (← translation) }
  | c =>
    match letterAction? c with
    | some action => do
      endCommand
      add { rule with action }
    | none => stop ("unknown command: `".toList ++ [c, '\''])

/-- Read commands up to the end. -/
def commands : Nat → EditRead Unit
  | 0 => pure ()
  | fuel + 1 => do
    let _ ← takeWhile fun c => isSpace c || c == ';'
    let s ← get
    unless s.rest.isEmpty do
      let (rule, c) ← addresses
      let (rule, c) ← if c = some '!' then do
          let c ← nextInk?
          if c = some '!' then stopWith "multiple `!'s"
          pure ({ rule with negated := true }, c)
        else pure (rule, c)
      match c with
      | none => stopWith "missing command"
      | some c => do
        command rule c
        commands fuel

/-- Read a script. -/
def script : EditRead EditScript := do
  let s ← get
  commands (s.rest.length + 1)
  let s ← get
  unless s.blocks.isEmpty do
    set { s with place := 0 }
    stopWith "unmatched `\x7b'"
  pure s.script

end EditRead

/-- A script from its text. -/
def EditScript.ofText (extended : Bool) (cs : Octets) : Except EditFault EditScript :=
  (EditRead.script.run { rest := cs, extended }).map (·.1)

end Diagnostics.Sandbox
