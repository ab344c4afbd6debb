/-!
# Where a configuration text goes wrong

Reading goes from left to right, and a place in the text is known by the number of characters from there to
the end. People are told the line and the column, both counted from one, columns in characters.
-/

namespace Diagnostics.Toml

/-- What can be wrong. -/
inductive Fault
  | unexpected
  | unclosedText
  | badEscape
  | outOfRange
  | duplicateKey (key : String)
  | nestedTooDeeply
  | wrongType (expected : String)
  deriving DecidableEq

/-- A fault in words. -/
def Fault.message : Fault → String
  | unexpected => "unexpected character"
  | unclosedText => "text without an end"
  | badEscape => "unknown escape"
  | outOfRange => "number out of range"
  | duplicateKey key => "duplicate key " ++ key
  | nestedTooDeeply => "nested too deeply"
  | wrongType expected => "expected " ++ expected

/-- A fault, and how many characters were left where it was found. -/
structure Misread where
  left : Nat
  fault : Fault
  deriving DecidableEq

/-- What was read, and the characters after it. -/
abbrev Reading (α : Type) := Except Misread (α × List Char)

/-- Stop here. -/
def stop (cs : List Char) (fault : Fault) : Except Misread α := .error ⟨cs.length, fault⟩

/-- A line, a column and a fault. -/
structure TomlError where
  line : Nat
  column : Nat
  fault : Fault
  deriving DecidableEq

/-- The headline with the place, then the fault. -/
def TomlError.message (e : TomlError) : String :=
  "TOML parse error at line " ++ toString e.line ++ ", column " ++ toString e.column ++ "\n"
    ++ e.fault.message

/-- Say where in the text a fault is. -/
def Misread.locate (text : List Char) (m : Misread) : TomlError :=
  let before := text.take (text.length - m.left)
  { line := before.count '\n' + 1, column := (before.reverse.takeWhile (· != '\n')).length + 1,
    fault := m.fault }

end Diagnostics.Toml
