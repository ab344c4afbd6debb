import Diagnostics.Text.Octets

/-!
# Scripts

What a shell script consists of. Words are kept in parts, because what is in quotes is treated differently from
what is outside. The text of a document that stands after its command is found by its number.
-/

namespace Diagnostics.Sandbox

/-- What a parameter in braces is replaced by, besides its value: another word, a complaint, its length, or its
value less a beginning or an end. `broken` means nothing and is refused when it is used. -/
inductive ParameterUse
  | value
  | otherwise
  | instead
  | complain
  | assign
  | length
  | cutEnd (longest : Bool)
  | cutStart (longest : Bool)
  | broken
  deriving DecidableEq

/-- How a file is redirected to. -/
inductive FileUse
  | write
  | overwrite
  | append
  | read
  | readWrite
  deriving DecidableEq

mutual

/-- A part of a word. A mark stands where quotes begin and where they end. -/
inductive Part
  | text (cs : Octets) (quoted : Bool)
  | mark
  | parameter (name : Octets) (use : ParameterUse) (emptyToo : Bool) (word : List Part)
  | output (script : Option Command)
  | arithmetic (word : List Part)

/-- A redirection of a descriptor: to a file, to what another descriptor leads to, or to a document. -/
inductive Redirection
  | file (descriptor : Nat) (use : FileUse) (name : List Part)
  | duplicate (descriptor : Nat) (target : List Part)
  | document (descriptor : Nat) (number : Nat)

/-- A command. -/
inductive Command
  | simple (line : Nat) (assignments words : List (List Part)) (redirections : List Redirection)
  | pipeline (background : Bool) (commands : List Command)
  | negated (c : Command)
  | both (a b : Command)
  | either (a b : Command)
  | sequence (a b : Command)
  | background (line : Nat) (c : Command) (redirections : List Redirection)
  | subshell (line : Nat) (c : Command) (redirections : List Redirection)
  | redirected (line : Nat) (c : Command) (redirections : List Redirection)
  | forEach (line : Nat) (name : Octets) (words : List (List Part)) (body : Command)
  | branch (condition yes : Command) (no : Option Command)
  | loop (stopOn : Bool) (condition body : Command)
  | choice (line : Nat) (word : List Part) (arms : List (List (List Part) × Option Command))
  | define (line : Nat) (name : Octets) (body : Command)

end

/-- A word. -/
abbrev Word := List Part

/-- A script that cannot be read: the line, what is said about it, and how often the command had gone on to another
line. -/
structure ScriptFault where
  line : Nat
  text : String
  goneOn : Nat

/-! ## Names -/

/-- A letter or a low line, with which names begin. -/
def isNameStart (c : Char) : Bool := c == '_' || c.isAlpha

/-- A character within a name. -/
def isNameChar (c : Char) : Bool := c == '_' || c.isAlphanum

/-- A parameter that has a sign for a name. -/
def isSpecialName (c : Char) : Bool := "!#$*-?@".toList.contains c

/-- The text is a name. -/
def isName (cs : Octets) : Bool := cs.head?.any isNameStart && cs.all isNameChar

/-- The text begins with a name and an equals sign. -/
def isAssignment (cs : Octets) : Bool :=
  cs.head?.any isNameStart && (cs.dropWhile isNameChar).head? == some '='

/-- Commands of the shell that mean more than others: their names are no names for functions. -/
def specialCommands : List String :=
  [".", ":", "break", "continue", "eval", "exec", "exit", "export", "readonly", "return", "set", "shift", "times",
    "trap", "unset"]

/-- A word that is plain text outside quotes. -/
def plainText? : Word → Option Octets
  | [] => some []
  | .text cs false :: rest => (plainText? rest).map (cs ++ ·)
  | _ => none

/-- The word assigns to a variable. -/
def Word.assigns : Word → Bool
  | .text cs false :: _ => isAssignment cs
  | _ => false

end Diagnostics.Sandbox
