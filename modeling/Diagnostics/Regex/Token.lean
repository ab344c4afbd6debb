import Diagnostics.Regex.Token.Bracket
import Diagnostics.Regex.Token.Count

/-!
# Tokens

A pattern as a list of tokens: elements, repetitions, bars, parentheses and flag marks. Whether the text is
verbose depends on the flags of the parentheses around it, so the lexer keeps the setting of every open
parenthesis and restores it at the matching one.
-/

namespace Diagnostics.Regex

/-- A part of a pattern that is read at once. -/
inductive Token
  | element (a : Ast)
  | flags (changes : FlagChanges)
  | opening (k : GroupKind)
  | closing
  | bar
  | repetition (min : Nat) (max : Option Nat) (greedy : Bool)
  deriving DecidableEq

/-! ## Parentheses -/

/-- Read flags up to the `:` or `)` that ends them. A flag may be named once, after the hyphen or before
it, and a hyphen must have a flag after it. -/
def readFlags (changes : FlagChanges) (negated dangling : Bool) :
    List Char → Except SyntaxError (FlagChanges × Char × List Char)
  | [] => .error .unfinishedFlags
  | c :: rest =>
    if c = ':' ∨ c = ')' then
      if dangling then .error .danglingNegation else .ok (changes.reverse, c, rest)
    else if c = '-' then
      if negated then .error .repeatedFlag else readFlags changes true true rest
    else
      match Flag.ofChar? c with
      | none => .error (.unknownFlag c)
      | some flag =>
        if (changes.lookup flag).isSome then .error .repeatedFlag
        else readFlags ((flag, !negated) :: changes) negated false rest

/-- Characters of a group name: a letter or low line first, then also numbers, dots and brackets. -/
def isNameChar (first : Bool) (c : Char) : Bool :=
  if first then c == '_' || Unicode.isAlphabetic c
  else c == '_' || c == '.' || c == '[' || c == ']' || Unicode.isAlphanumeric c

/-- Read a group name up to its `>`. -/
def readGroupName (cs : List Char) : Except SyntaxError (String × List Char) :=
  let name := cs.takeWhile (· != '>')
  match cs.dropWhile (· != '>'), name with
  | '>' :: left, first :: more =>
    if isNameChar true first && more.all (isNameChar false) then .ok (String.ofList name, left)
    else .error .badGroupName
  | _, _ => .error .badGroupName

/-- Read what an opening parenthesis begins: a group, or flags that stand alone. -/
def readOpening (verbose : Bool) (cs : List Char) : Except SyntaxError (Token × List Char) :=
  match skipBlanks verbose cs with
  | '?' :: '=' :: _ => .error .lookAround
  | '?' :: '!' :: _ => .error .lookAround
  | '?' :: '<' :: '=' :: _ => .error .lookAround
  | '?' :: '<' :: '!' :: _ => .error .lookAround
  | '?' :: 'P' :: '<' :: rest => do
    let (name, left) ← readGroupName rest
    pure (.opening (.capture (some name)), left)
  | '?' :: '<' :: rest => do
    let (name, left) ← readGroupName rest
    pure (.opening (.capture (some name)), left)
  | '?' :: rest => do
    let (changes, last, left) ← readFlags [] false false rest
    if last = ':' then pure (.opening (.plain changes), left)
    else if changes.isEmpty then .error .nothingToRepeat
    else pure (.flags changes, left)
  | left => .ok (.opening (.capture none), left)

/-! ## The list of tokens -/

/-- A repetition sign may be followed by `?`, which turns its preference round. -/
def readPreference : List Char → Bool × List Char
  | '?' :: rest => (false, rest)
  | cs => (true, cs)

/-- Read the token at the start of a text that begins with `c`. -/
def readToken (verbose : Bool) (c : Char) (rest : List Char) : Except SyntaxError (Token × List Char) :=
  let sign (min : Nat) (max : Option Nat) : Except SyntaxError (Token × List Char) :=
    let (greedy, left) := readPreference rest
    .ok (.repetition min max greedy, left)
  match c with
  | '(' => readOpening verbose rest
  | ')' => .ok (.closing, rest)
  | '|' => .ok (.bar, rest)
  | '[' => do
    let (a, left) ← readBracket verbose rest
    pure (.element a, left)
  | '?' => sign 0 (some 1)
  | '*' => sign 0 none
  | '+' => sign 1 none
  | '\x7b' => do
    let (count, left) ← readCount verbose rest
    let (greedy, left) := readPreference (skipBlanks verbose left)
    pure (.repetition count.min count.max greedy, left)
  | '.' => .ok (.element .dot, rest)
  | '^' => .ok (.element (.anchor .caret), rest)
  | '$' => .ok (.element (.anchor .dollar), rest)
  | '\\' => do
    let (e, left) ← readEscape verbose rest
    match e with
    | .char c => pure (.element (.char c), left)
    | .octet c => pure (.element (.octet c), left)
    | .anchor a => pure (.element (.anchor a), left)
    | .letter k negated => pure (.element (.letter k negated), left)
    | .property name negated => pure (.element (.property name negated), left)
  | _ => .ok (.element (.char c), rest)

/-- The verbose setting in force after a token, and the settings to return to. -/
def Token.verboseAfter (verbose : Bool) (outer : List Bool) : Token → Bool × List Bool
  | .flags changes => ((changes.value? .verbose).getD verbose, outer)
  | .opening (.capture _) => (verbose, verbose :: outer)
  | .opening (.plain changes) => ((changes.value? .verbose).getD verbose, verbose :: outer)
  | .closing =>
    match outer with
    | [] => (verbose, [])
    | before :: outer => (before, outer)
  | _ => (verbose, outer)

/-- Read all tokens. Each takes at least one character. -/
def tokensFrom (verbose : Bool) (outer : List Bool) (cs : List Char) : Except SyntaxError (List Token) :=
  match skipBlanks verbose cs with
  | [] => .ok []
  | c :: rest => do
    let (token, left) ← readToken verbose c rest
    if left.length < cs.length then
      let (verbose, outer) := token.verboseAfter verbose outer
      let more ← tokensFrom verbose outer left
      pure (token :: more)
    else .error .unclosedGroup
termination_by cs.length

/-- The tokens of a pattern. -/
def tokens (source : String) : Except SyntaxError (List Token) := tokensFrom false [] source.toList

end Diagnostics.Regex
