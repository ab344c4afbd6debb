import Diagnostics.Decimal

/-!
# JSON

Values and their text. The text is either on one line without any blanks, or spread over lines with two
blanks for each level. Fields keep the order they are given in. Characters outside ASCII stand for
themselves; of the others only the quote, the backslash and the control characters are escaped.
-/

namespace Diagnostics

/-- A value. Whole numbers and other numbers are kept apart: `1` is whole and `1.0` is not. -/
inductive Json
  | null
  | bool (b : Bool)
  | whole (n : Int)
  | real (x : Float)
  | str (s : String)
  | arr (items : List Json)
  | obj (fields : List (String × Json))
  deriving Inhabited

namespace Json

/-! ## Texts in quotes -/

/-- A control character that has no letter of its own. -/
def escapeNumber (c : Char) : String :=
  let digits := Nat.toDigits 16 c.toNat
  "\\u" ++ String.ofList (List.replicate (4 - digits.length) '0' ++ digits)

/-- One character inside quotes. -/
def escapeChar (c : Char) : String :=
  match c with
  | '"' => "\\\""
  | '\\' => "\\\\"
  | '\x08' => "\\b"
  | '\x0c' => "\\f"
  | '\n' => "\\n"
  | '\r' => "\\r"
  | '\t' => "\\t"
  | _ => if c.toNat < 32 then escapeNumber c else c.toString

/-- A text in quotes. -/
def quote (s : String) : String := "\"" ++ String.join (s.toList.map escapeChar) ++ "\""

/-! ## Layout -/

/-- On one line, or over lines at a depth. -/
inductive Layout
  | compact
  | lines (depth : Nat)

namespace Layout

/-- The layout of what is inside. -/
def inner : Layout → Layout
  | compact => compact
  | lines depth => lines (depth + 1)

/-- What stands before a member. -/
def start : Layout → String
  | compact => ""
  | lines depth => "\n" ++ String.ofList (List.replicate (2 * depth) ' ')

/-- What stands between the name of a field and its value. -/
def colon : Layout → String
  | compact => ":"
  | lines _ => ": "

end Layout

/-- The text of a number that is not whole; infinities and NaN have none. -/
def realText (x : Float) : String :=
  match Binary.ofFloat? x with
  | none => "null"
  | some _ => Decimal.marked x

/-! ## The text of a value -/

mutual

/-- The text of a value. -/
def render (l : Layout) : Json → String
  | null => "null"
  | bool b => if b then "true" else "false"
  | whole n => toString n
  | real x => realText x
  | str s => quote s
  | arr [] => "[]"
  | arr (item :: items) => "[" ++ l.inner.start ++ render l.inner item ++ renderItems l items ++ "]"
  | obj [] => "\x7b\x7d"
  | obj (field :: fields) =>
    "\x7b" ++ l.inner.start ++ renderField l field ++ renderFields l fields ++ "\x7d"

/-- The items after the first. -/
def renderItems (l : Layout) : List Json → String
  | [] => l.start
  | item :: items => "," ++ l.inner.start ++ render l.inner item ++ renderItems l items

/-- One field. -/
def renderField (l : Layout) : String × Json → String
  | (name, value) => quote name ++ l.colon ++ render l.inner value

/-- The fields after the first. -/
def renderFields (l : Layout) : List (String × Json) → String
  | [] => l.start
  | field :: fields => "," ++ l.inner.start ++ renderField l field ++ renderFields l fields

end

/-- The text on one line. -/
def compact (j : Json) : String := render .compact j

/-- The text over lines. -/
def pretty (j : Json) : String := render (.lines 0) j

/-! ## Reading values -/

/-- The text that a value is. -/
def str? : Json → Option String
  | str s => some s
  | _ => none

/-- The whole number that a value is, from zero up to a limit. -/
def nat? (limit : Nat) : Json → Option Nat
  | whole n => if 0 ≤ n ∧ n ≤ limit then some n.toNat else none
  | _ => none

/-- The texts that a value lists. -/
def strs? : Json → Option (List String)
  | arr items => items.mapM str?
  | _ => none

/-- A record whose fields have the given names: an object, in which other fields are ignored if `extra` says
so, or an array that lists the values in order. -/
def record? (names : List String) (extra : Bool) : Json → Option (List Json)
  | arr items => if items.length = names.length then some items else none
  | obj fields =>
    if extra || fields.all fun f => names.contains f.1 then names.mapM fun n => fields.lookup n else none
  | _ => none

end Json

end Diagnostics
