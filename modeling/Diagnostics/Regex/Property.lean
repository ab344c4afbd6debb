import Diagnostics.Regex.Syntax
import Diagnostics.Text.Find
import Diagnostics.Unicode.Category
import Diagnostics.Unicode.Script

/-!
# Properties by their names

A class may be named by a property of its characters. Names are loose: small letters and capitals, blanks, low lines,
hyphens and an `is` in front make no difference. A name alone is that of a property that holds or does not hold, of a
general category or of a script, in this order; a name with a value tells the category or the script by the value. Of the
properties that hold or do not hold those of letters, of white space and of digits to the base 16 are known here; all
others, and those with other values, are refused like names that nobody knows.
-/

namespace Diagnostics.Regex

/-- A name without what makes no difference. The name `isc` is an exception, so that it does not become that of a
category. -/
def looseName (name : String) : String :=
  let bare (cs : List Char) : String :=
    String.ofList ((cs.filter fun c => c.toNat < 128 && c != ' ' && c != '_' && c != '-').map Char.toLower)
  match name.toList with
  | i :: s :: rest =>
    if i.toLower = 'i' ∧ s.toLower = 's' then
      if bare rest = "c" then "isc" else bare rest
    else bare (i :: s :: rest)
  | cs => bare cs

/-- The short name of what is called so, if it is listed. -/
def shortName? (names : List (String × List String)) (name : String) : Option String :=
  (names.find? fun (short, others) => (short :: others).any (looseName · = looseName name)).map (·.1)

/-! ## Sets -/

/-- The characters of a general category, or of all categories with a short name in common. -/
def category? (name : String) : Option CharSet :=
  match looseName name with
  | "any" => some .any
  | "ascii" => some (.span '\x00' '\x7f')
  | "assigned" => some (.compl (.ranges (Unicode.ofCategory "Cn")))
  | _ =>
    match shortName? Unicode.categoryNames name with
    | some short => if short = "Cs" then none else some (.ranges (Unicode.ofCategory short))
    | none => none

/-- The characters of a script. -/
def script? (name : String) : Option CharSet :=
  (shortName? Unicode.scriptNames name).map fun short => .ranges (Unicode.ofScript short)

/-- Small letters and capitals: those of a category, and others. -/
def lettersOf (short : String) (others : Unicode.Ranges) : CharSet :=
  .union (.ranges (Unicode.ofCategory short)) (.ranges others)

/-- The characters that have a property. -/
def holding? (name : String) : Option CharSet :=
  match looseName name with
  | "alphabetic" | "alpha" => some (.diff (.ranges Unicode.alphabetic) (.ranges Unicode.latestLetters))
  | "lowercase" | "lower" => some (lettersOf "Ll" Unicode.otherLowercase)
  | "uppercase" | "upper" => some (lettersOf "Lu" Unicode.otherUppercase)
  | "cased" => some (.union (lettersOf "LC" Unicode.otherLowercase) (.ranges Unicode.otherUppercase))
  | "whitespace" | "wspace" | "space" => some .space
  | "asciihexdigit" | "ahex" => some PosixClass.xdigit.toSet
  | "hexdigit" | "hex" =>
    some (.unions [PosixClass.xdigit.toSet, .span '\uff10' '\uff19', .span '\uff21' '\uff26', .span '\uff41' '\uff46'])
  | _ => none

namespace PropertyName

/-- The characters of the class with this name. -/
def toSet? : PropertyName → Except SyntaxError CharSet
  | alone name =>
    match (holding? name).or ((category? name).or (script? name)) with
    | some set => .ok set
    | none => .error .unknownProperty
  | valued name value =>
    let found : Except SyntaxError (Option CharSet) :=
      match looseName name with
      | "gc" | "generalcategory" => .ok (category? value)
      | "sc" | "script" => .ok (script? value)
      | _ => .error .unknownProperty
    match found with
    | .ok (some set) => .ok set
    | .ok none => .error .unknownPropertyValue
    | .error e => .error e

/-- A name as it stands in braces, and whether the class holds all other characters. -/
def ofText (text : List Char) : PropertyName × Bool :=
  match cutAtFirst? ['!', '='] text, cutAtFirst? [':'] text, cutAtFirst? ['='] text with
  | some (name, value), _, _ => (.valued (String.ofList name) (String.ofList value), true)
  | none, some (name, value), _ => (.valued (String.ofList name) (String.ofList value), false)
  | none, none, some (name, value) => (.valued (String.ofList name) (String.ofList value), false)
  | none, none, none => (.alone (String.ofList text), false)

end PropertyName

end Diagnostics.Regex
