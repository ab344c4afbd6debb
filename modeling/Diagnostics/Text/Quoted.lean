import Diagnostics.Unicode.Printable

/-!
# Quoted text

Text in quotes for people who look for trouble: whatever would not show, or would end the quote, is
written as an escape.
-/

namespace Diagnostics.Quoted

/-- The hexadecimal digits of a number, lower case, no leading zero. -/
def hex (n : Nat) : String := String.ofList (Nat.toDigits 16 n)

/-- One character inside quotes. Control characters with a letter of their own take it, everything else
that has no shape is written by its number. -/
def escapeChar (c : Char) : String :=
  match c with
  | '\x00' => "\\0"
  | '\t' => "\\t"
  | '\r' => "\\r"
  | '\n' => "\\n"
  | '"' => "\\\""
  | '\\' => "\\\\"
  | _ => if Unicode.isPrintable c then c.toString else "\\u\x7b" ++ hex c.toNat ++ "\x7d"

/-- A text in quotes. -/
def text (s : String) : String := "\"" ++ String.join (s.toList.map escapeChar) ++ "\""

/-- A list of texts in quotes, in brackets. -/
def texts (ss : List String) : String := "[" ++ String.intercalate ", " (ss.map text) ++ "]"

end Diagnostics.Quoted
