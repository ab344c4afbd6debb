import Diagnostics.Sandbox.Script.Word

/-!
# Commands

The grammar of scripts. A script is read one line of commands at a time, because what a line does may change how
the next one is read. Each function takes a bound for the depth of commands in commands.
-/

namespace Diagnostics.Sandbox

namespace Reading

/-! ## Tokens -/

/-- Skip a comment. -/
def skipComment : Nat → Reading Unit
  | 0 => pure ()
  | fuel + 1 => do
    match ← next with
    | none => pure ()
    | some '\n' => giveBack (some '\n')
    | some _ => skipComment fuel

/-- The token that begins with the next character that is no blank. -/
def freshToken (inner : Substitutions) : Nat → Reading Token
  | 0 => pure .finish
  | fuel + 1 => do
    let twice (c : Char) (double single : Token) : Reading Token := do
      let d ← nextJoined
      if d = some c then pure double else giveBack d; pure single
    match ← nextJoined with
    | none => pure .finish
    | some ' ' => freshToken inner fuel
    | some '\t' => freshToken inner fuel
    | some '#' => skipComment lengthLimit; freshToken inner fuel
    | some '\n' => endLine; pure .newline
    | some '&' => twice '&' .bothSign .ampersand
    | some '|' => twice '|' .eitherSign .bar
    | some ';' => twice ';' .endArm .semicolon
    | some '(' => pure .openParen
    | some ')' => pure .closeParen
    | some c => giveBack (some c); word inner

/-- The token that was given back, or the next one. -/
def rawToken (inner : Substitutions) : Reading Token := do
  if (← get).isGivenBack then
    modify fun r => { r with isGivenBack := false }
    pure (← get).token
  else
    goOn
    let t ← freshToken inner lengthLimit
    modify fun r => { r with token := t }
    pure t

/-- Read the texts of the documents that are to come. -/
def readDocuments (inner : Substitutions) : Reading Unit := do
  let pending := (← get).pending
  modify fun r => { r with pending := [] }
  pending.forM fun d => do
    goOn
    document inner d

/-- Skip newlines, with the documents that follow them. -/
def skipNewlines (inner : Substitutions) : Nat → Token → Reading Token
  | 0, t => pure t
  | fuel + 1, t => do
    match t with
    | .newline =>
      readDocuments inner
      modify fun r => { r with checks := {} }
      skipNewlines inner fuel (← rawToken inner)
    | t => pure t

/-- Read a token as the checks want it. -/
def tokenWith (inner : Substitutions) : Nat → Checks → Reading Token
  | 0, _ => pure .finish
  | fuel + 1, checks => do
    let t ← rawToken inner
    let t ← if checks.newlines then skipNewlines inner lengthLimit t else pure t
    let met := (← get).checks
    let keywords := checks.keywords || met.keywords
    let aliases := checks.aliases || met.aliases
    modify fun r => { r with checks := {} }
    let settle (t : Token) : Reading Token := do
      modify fun r => { r with token := t }
      pure t
    match t with
    | .word w false =>
      match plainText? w with
      | none => settle t
      | some cs =>
        match if keywords then Keyword.find? cs else none with
        | some k => settle (.keyword k)
        | none =>
          match ← (if aliases then aliasOf cs else pure none) with
          | some value =>
            unless value.isEmpty do enterAlias cs value
            tokenWith inner fuel { checks with keywords, aliases }
          | none => settle t
    | t => settle t

/-- Read a token. -/
def token (inner : Substitutions) (checks : Checks) : Reading Token := do
  modify fun r => { r with checks }
  tokenWith inner lengthLimit checks

/-- Give the last token back. -/
def giveBackToken : Reading Unit := modify fun r => { r with isGivenBack := true }

/-! ## Complaints -/

/-- The last token cannot stand where it stands. -/
def unexpected : Reading α := do fault ((← get).token.described ++ " unexpected")

/-- The last token stands where another one should. -/
def unexpectedFor (expected : Token) : Reading α := do
  fault ((← get).token.described ++ " unexpected (expecting " ++ expected.described ++ ")")

/-- Require a token. -/
def require (found expected : Token) : Reading Unit := do
  let same :=
    match found, expected with
    | .keyword a, .keyword b => a == b
    | .closeParen, .closeParen => true
    | .endArm, .endArm => true
    | _, _ => false
  unless same do unexpectedFor expected

/-! ## Commands -/

/-- How a list of commands goes on: to the end of the line, over lines, or over lines and perhaps with nothing in
it. -/
inductive ListKind
  | line
  | body
  | optional
  deriving DecidableEq

/-- Checks for a word that may begin a command. -/
def commandChecks : Checks := { newlines := true, keywords := true, aliases := true }

/-- The text of a word without the marks of its quotes. -/
def bareText : Word → Octets
  | [] => []
  | .text cs _ :: rest => cs ++ bareText rest
  | _ :: rest => bareText rest

/-- Run a command in the background. -/
def inBackground (line : Nat) : Command → Command
  | .pipeline _ commands => .pipeline true commands
  | .redirected line c redirections => .background line c redirections
  | c => .background line c []

/-- Put redirections around a command. -/
def redirect (line : Nat) (c : Command) : List Redirection → Command
  | [] => c
  | redirections =>
    match c with
    | .subshell line c _ => .subshell line c redirections
    | c => .redirected line c redirections

/-- The word of a redirection. -/
def redirectionOf (inner : Substitutions) (descriptor : Nat) (arrow : Arrow) : Reading Redirection := do
  let endMark := match arrow with
    | .document _ => true
    | _ => false
  match ← token inner { endMark } with
  | .word w hasQuotes =>
    match arrow with
    | .file use => pure (.file descriptor use w)
    | .duplicate => pure (.duplicate descriptor w)
    | .document stripsTabs => pure (.document descriptor (← expectDocument (bareText w) stripsTabs hasQuotes))
  | _ => unexpected

/-- Redirections after a command. -/
def redirections (inner : Substitutions) : Nat → List Redirection → Reading (List Redirection)
  | 0, seen => pure seen.reverse
  | fuel + 1, seen => do
    match ← token inner { keywords := true, aliases := true } with
    | .redirection descriptor arrow => redirections inner fuel ((← redirectionOf inner descriptor arrow) :: seen)
    | _ => giveBackToken; pure seen.reverse

/-- Words up to something else. -/
def words (inner : Substitutions) : Nat → List Word → Reading (List Word)
  | 0, seen => pure seen.reverse
  | fuel + 1, seen => do
    match ← token inner {} with
    | .word w _ => words inner fuel (w :: seen)
    | _ => pure seen.reverse

/-- The word that a token is, also where it is a keyword. -/
def wordOf : Token → Word
  | .word w _ => w
  | .keyword k => [.text k.written.toList false]
  | _ => []

/-- Patterns of an arm, from the first word on. -/
def patterns (inner : Substitutions) : Nat → Token → List Word → Reading (List Word)
  | 0, _, seen => pure seen.reverse
  | fuel + 1, t, seen => do
    let seen := wordOf t :: seen
    match ← token inner {} with
    | .bar => patterns inner fuel (← token inner {}) seen
    | _ => pure seen.reverse

/-- All parameters, each in quotes. -/
def allParameters : Word := [.mark, .parameter ['@'] .value false [], .mark]

mutual

/-- How the commands of a substitution are read. -/
def substitutionsWith : Nat → Substitutions
  | 0 => ⟨pure none, fun _ => pure none⟩
  | fuel + 1 => {
      following := do
        let outer ← get
        modify fun r => { r with pending := [] }
        let (c, _) ← list fuel .optional none true
        require (← token (substitutionsWith fuel) {}) .closeParen
        let rest ← get
        set { rest with input := [], aliasTexts := [] }
        readDocuments (substitutionsWith fuel)
        modify fun r => { r with
          input := rest.input, aliasTexts := rest.aliasTexts, line := rest.line, pending := outer.pending,
          hasMetEnd := rest.hasMetEnd }
        pure c
      ofText := fun text => do
        let outer ← get
        set { outer with input := text, aliasTexts := [], line := 1, pending := [], isGivenBack := false }
        let (c, _) ← list fuel .optional none true
        modify fun r => { r with
          input := outer.input, aliasTexts := outer.aliasTexts, line := outer.line, pending := outer.pending,
          isGivenBack := false, hasMetEnd := outer.hasMetEnd, goneOn := outer.goneOn }
        pure c }

/-- A list of commands, and whether there was nothing at all. -/
def list : Nat → ListKind → Option Command → Bool → Reading (Option Command × Bool)
  | 0, _, _, _ => fault "too deep"
  | fuel + 1, kind, seen, isFirst => do
    let inner := substitutionsWith fuel
    let isLine := kind = .line
    let ended (nothing : Bool) : Reading (Option Command × Bool) := do
      readDocuments inner
      modify fun r => { r with token := .finish, isGivenBack := true }
      pure (seen, nothing)
    match ← token inner { commandChecks with newlines := !isLine } with
    | .newline => readDocuments inner; pure (seen, false)
    | .finish => ended (seen.isNone && isLine)
    | t =>
      giveBackToken
      if (kind = .optional || !isFirst && !isLine) && t.endsList then pure (seen, false)
      else
        let line := (← get).line
        let c ← andOr fuel
        let after ← token inner {}
        let c := match after with
          | .ampersand => inBackground line c
          | _ => c
        let seen := match seen with
          | none => c
          | some before => .sequence before c
        match after with
        | .finish =>
          readDocuments inner
          modify fun r => { r with token := .finish, isGivenBack := true }
          pure (some seen, false)
        | .newline => giveBackToken; list fuel kind (some seen) false
        | .ampersand => list fuel kind (some seen) false
        | .semicolon => list fuel kind (some seen) false
        | _ =>
          if isLine then unexpected
          giveBackToken
          pure (some seen, false)

/-- Pipelines, of which one runs only if the one before has succeeded or failed. -/
def andOr : Nat → Reading Command
  | 0 => fault "too deep"
  | fuel + 1 => do
    let c ← pipeline fuel
    andOrAfter fuel c

/-- What follows the first pipelines. -/
def andOrAfter : Nat → Command → Reading Command
  | 0, c => pure c
  | fuel + 1, c => do
    let inner := substitutionsWith fuel
    match ← token inner {} with
    | .bothSign => andOrAfter fuel (.both c (← pipelineWith fuel commandChecks))
    | .eitherSign => andOrAfter fuel (.either c (← pipelineWith fuel commandChecks))
    | _ => giveBackToken; pure c

/-- A pipeline that begins with the token given back. -/
def pipeline : Nat → Reading Command
  | 0 => fault "too deep"
  | fuel + 1 => pipelineWith fuel {}

/-- A pipeline, whose first token is read with checks. -/
def pipelineWith : Nat → Checks → Reading Command
  | 0, _ => fault "too deep"
  | fuel + 1, checks => do
    let inner := substitutionsWith fuel
    let t ← token inner checks
    let negates := t.isKeyword .bang
    let first ←
      if negates then command fuel { keywords := true, aliases := true }
      else do giveBackToken; command fuel {}
    let c ←
      match ← token inner {} with
      | .bar => do pure (Command.pipeline false (first :: (← piped fuel [])))
      | _ => do giveBackToken; pure first
    pure (if negates then .negated c else c)

/-- The further commands of a pipeline. -/
def piped : Nat → List Command → Reading (List Command)
  | 0, seen => pure seen.reverse
  | fuel + 1, seen => do
    let c ← command fuel commandChecks
    match ← token (substitutionsWith fuel) {} with
    | .bar => piped fuel (c :: seen)
    | _ => giveBackToken; pure (c :: seen).reverse

/-- A command. -/
def command : Nat → Checks → Reading Command
  | 0, _ => fault "too deep"
  | fuel + 1, checks => do
    let inner := substitutionsWith fuel
    let line := (← get).line
    let body : Reading Command := do
      match ← list fuel .body none true with
      | (some c, _) => pure c
      | (none, _) => pure (.simple line [] [] [])
    let t ← token inner checks
    match t with
    | .keyword .ifWord =>
      let c ← branch fuel
      require (← token inner {}) (.keyword .fiWord)
      pure (redirect line c (← redirections inner lengthLimit []))
    | .keyword .whileWord => do
      let condition ← body
      require (← token inner {}) (.keyword .doWord)
      let c := Command.loop false condition (← body)
      require (← token inner {}) (.keyword .doneWord)
      pure (redirect line c (← redirections inner lengthLimit []))
    | .keyword .untilWord => do
      let condition ← body
      require (← token inner {}) (.keyword .doWord)
      let c := Command.loop true condition (← body)
      require (← token inner {}) (.keyword .doneWord)
      pure (redirect line c (← redirections inner lengthLimit []))
    | .keyword .forWord => do
      let name ←
        match ← token inner {} with
        | .word w false =>
          match plainText? w with
          | some cs => if isName cs then pure cs else fault "Bad for loop variable"
          | none => fault "Bad for loop variable"
        | _ => fault "Bad for loop variable"
      let items ←
        match ← token inner commandChecks with
        | .keyword .inWord => do
          let items ← words inner lengthLimit []
          match (← get).token with
          | .newline => pure items
          | .semicolon => pure items
          | _ => unexpected
        | .semicolon => pure [allParameters]
        | _ => do giveBackToken; pure [allParameters]
      require (← token inner commandChecks) (.keyword .doWord)
      let c := Command.forEach line name items (← body)
      require (← token inner {}) (.keyword .doneWord)
      pure (redirect line c (← redirections inner lengthLimit []))
    | .keyword .caseWord => do
      let subject ←
        match ← token inner {} with
        | .word w _ => pure w
        | _ => unexpectedFor (.word [] false)
      match ← token inner commandChecks with
      | .keyword .inWord => pure ()
      | _ => unexpectedFor (.keyword .inWord)
      let c := Command.choice line subject (← arms fuel [])
      pure (redirect line c (← redirections inner lengthLimit []))
    | .openParen => do
      let c := Command.subshell line (← body) []
      require (← token inner {}) .closeParen
      pure (redirect line c (← redirections inner lengthLimit []))
    | .keyword .openBrace => do
      let c ← body
      require (← token inner {}) (.keyword .closeBrace)
      pure (redirect line c (← redirections inner lengthLimit []))
    | .word .. => giveBackToken; simple fuel line true [] [] []
    | .redirection .. => giveBackToken; simple fuel line true [] [] []
    | _ => unexpected

/-- Conditions and what is done under them. -/
def branch : Nat → Reading Command
  | 0 => fault "too deep"
  | fuel + 1 => do
    let inner := substitutionsWith fuel
    let body : Reading Command := do
      match ← list fuel .body none true with
      | (some c, _) => pure c
      | (none, _) => pure (.simple 0 [] [] [])
    let condition ← body
    require (← token inner {}) (.keyword .thenWord)
    let yes ← body
    match ← token inner {} with
    | .keyword .elifWord => pure (.branch condition yes (some (← branch fuel)))
    | .keyword .elseWord => pure (.branch condition yes (some (← body)))
    | _ => giveBackToken; pure (.branch condition yes none)

/-- The arms of a choice, up to its end. -/
def arms : Nat → List (List Word × Option Command) → Reading (List (List Word × Option Command))
  | 0, seen => pure seen.reverse
  | fuel + 1, seen => do
    let inner := substitutionsWith fuel
    let t ← token inner { newlines := true, keywords := true }
    if t.isKeyword .esacWord then pure seen.reverse
    else
      let t ← match t with
        | .openParen => token inner {}
        | t => pure t
      let ps ← patterns inner lengthLimit t []
      match (← get).token with
      | .closeParen => pure ()
      | _ => unexpectedFor .closeParen
      let (c, _) ← list fuel .optional none true
      let seen := (ps, c) :: seen
      match ← token inner { newlines := true, keywords := true } with
      | .keyword .esacWord => pure seen.reverse
      | .endArm => arms fuel seen
      | _ => unexpectedFor .endArm

/-- A simple command, or the definition of a function. -/
def simple : Nat → Nat → Bool → List Word → List Word → List Redirection → Reading Command
  | 0, line, _, assignments, ws, reds => pure (.simple line assignments ws reds)
  | fuel + 1, line, mayAssign, assignments, ws, reds => do
    let inner := substitutionsWith fuel
    match ← token inner { aliases := mayAssign } with
    | .word w _ =>
      if mayAssign && w.assigns then simple fuel line true (w :: assignments) ws reds
      else simple fuel line false assignments (w :: ws) reds
    | .redirection descriptor arrow =>
      simple fuel line mayAssign assignments ws ((← redirectionOf inner descriptor arrow) :: reds)
    | t =>
      match t, assignments, ws, reds with
      | .openParen, [], [w], [] =>
        require (← token inner {}) .closeParen
        let name := (plainText? w).getD []
        if !isName name || specialCommands.contains (Octets.text name) then fault "Bad function name"
        let here := (← get).line
        pure (.define here name (← command fuel commandChecks))
      | _, _, _, _ =>
        giveBackToken
        pure (.simple line assignments.reverse ws.reverse reds.reverse)

end

/-! ## Scripts -/

/-- A bound for the depth of commands in commands. -/
def depthLimit : Nat := 1099511627776

/-- Read a line of commands; nothing at the end of the script. -/
def commandLine : Reading (Option (Option Command)) := do
  modify fun r => { r with isGivenBack := false, checks := {}, pending := [], hasEndedLine := false, goneOn := 0 }
  match ← list depthLimit .line none true with
  | (_, true) => pure none
  | (c, false) => pure (some c)

/-- The script has been read to its end. -/
def isAtEnd : Reading Bool := do
  let r ← get
  match r.token with
  | .finish => pure r.isGivenBack
  | _ => pure false

/-- Read a text like that of a document. -/
def text : Reading Word := freeDocument (substitutionsWith depthLimit)

end Reading

end Diagnostics.Sandbox
