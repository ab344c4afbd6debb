import Diagnostics.Text.Octets

/-!
# Names in complaints

Tools quote the names of files that they complain about, so that the name could be copied into a script: only where
that is needed, or always.
-/

namespace Diagnostics.Sandbox

/-! ## Escapes -/

/-- A character that is shown as it is. -/
def isShown (c : Char) : Bool := ' ' ≤ c && c ≤ '~'

/-- Three octal digits. -/
def threeOctal (n : Nat) : Octets :=
  let ds := Nat.toDigits 8 n
  List.replicate (3 - ds.length) '0' ++ ds

/-- The escape of a character that is not shown. -/
def escapeOf (c : Char) : Octets :=
  match ['\x07', '\x08', '\t', '\n', '\x0b', '\x0c', '\r'].zip "abtnvfr".toList |>.lookup c with
  | some letter => ['\\', letter]
  | none => '\\' :: threeOctal c.toNat

/-! ## Quotes of scripts -/

/-- Characters that mean something in a script. -/
def scriptSigns : Octets := " !\"$&()*;<=>[^\x60|'?\\".toList

/-- A name that a script would take for something else. -/
def needsQuotes (withColons : Bool) (cs : Octets) : Bool :=
  match cs with
  | [] => true
  | c :: rest =>
    (c == '#' || c == '~') || ((c == '\x7b' || c == '\x7d') && rest.isEmpty) ||
      cs.any fun c => !isShown c || scriptSigns.contains c || (withColons && c == ':')

/-- The text between single quotes; the flag tells that what comes before is an escape. -/
def quotedBody : Bool → Octets → Octets
  | escaping, [] => if escaping then ['\''] else ['\'']
  | escaping, c :: rest =>
    if c = '\'' then "'\\''".toList ++ quotedBody false rest
    else if isShown c then (if escaping then ['\'', '\'', c] else [c]) ++ quotedBody false rest
    else (if escaping then escapeOf c else "'$'".toList ++ escapeOf c) ++ quotedBody true rest

/-- Double quotes do for the text. -/
def fitsDoubleQuotes (cs : Octets) : Bool :=
  cs.contains '\'' && (cs.zipIdx).all fun (c, i) =>
    isShown c && (c == '\'' || c == ' ' || ((c == '#' || c == '~') && i == 0) ||
      !("#~".toList.contains c || scriptSigns.contains c))

/-- A name in quotes. -/
def quoteName (cs : Octets) : Octets :=
  if fitsDoubleQuotes cs then '"' :: cs ++ ['"'] else '\'' :: quotedBody false cs

/-- A name, in quotes if that is needed. -/
def quoteNameIfNeeded (cs : Octets) : Octets := if needsQuotes true cs then quoteName cs else cs

/-- A word in single quotes with escapes in it. -/
def quoteWord (cs : Octets) : Octets :=
  '\'' :: cs.flatMap (fun c =>
    if c = '\'' || c = '\\' then ['\\', c] else if isShown c then [c] else escapeOf c) ++ ['\'']

end Diagnostics.Sandbox
