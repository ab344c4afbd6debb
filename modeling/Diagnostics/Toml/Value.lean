import Diagnostics.Toml.Moment
import Diagnostics.Toml.Node

/-!
# Keys and values

A key is a bare word or a text in quotes on one line; keys joined by points lead into tables. Arrays may
spread over lines and may end in a comma, tables between braces may not.
-/

namespace Diagnostics.Toml

/-- Arrays and tables may be nested less than this deeply, and keys joined by fewer points than this. -/
def depthLimit : Nat := 80

/-! ## Keys -/

/-- A character of a bare key. -/
def isBare (c : Char) : Bool := c.isAlphanum || c == '_' || c == '-'

/-- Read one key. -/
def readKey (cs : List Char) : Reading String :=
  match cs with
  | '"' :: rest => readLine '"' rest
  | '\'' :: rest => readLine '\'' rest
  | _ =>
    let word := cs.takeWhile isBare
    if word.isEmpty then stop cs .unexpected else .ok (String.ofList word, cs.dropWhile isBare)

/-- Read keys joined by points, and the blanks around them. -/
def readKeys (cs : List Char) : Reading (List String) :=
  match readKey (skipBlanks cs) with
  | .error e => .error e
  | .ok (key, left) =>
    match skipBlanks left with
    | '.' :: rest =>
      if rest.length < cs.length then
        (readKeys rest).map fun (keys, left) => (key :: keys, left)
      else stop rest .unexpected
    | left => .ok ([key], left)
termination_by cs.length

/-- A key with the keys of the tables that lead to it. -/
structure KeyPath where
  tables : List String
  key : String

/-- Read a key path. -/
def readKeyPath (cs : List Char) : Except Misread (KeyPath × List Char) := do
  let (keys, left) ← readKeys cs
  match keys.getLast? with
  | none => stop cs .unexpected
  | some key =>
    if keys.length < depthLimit then pure ({ tables := keys.dropLast, key }, left)
    else stop left .nestedTooDeeply

/-! ## Values without parts -/

/-- A character of a number, a date or a word. -/
def isTokenChar (c : Char) : Bool := c.isAlphanum || c == '_' || c == '-' || c == '+' || c == '.' || c == ':'

/-- What a token means. -/
def tokenValue (place : Nat) (token : List Char) : Except Fault Node :=
  if token = "true".toList then .ok (.bool place true)
  else if token = "false".toList then .ok (.bool place false)
  else if isMoment token then .ok (.moment place)
  else
    match whole? token, wordBits? token, decimal? token with
    | some n, _, _ => if fitsWhole n then .ok (.whole place n) else .error .outOfRange
    | _, some bits, _ => .ok (.real place bits)
    | _, _, some d => if d.bits = infinityBits then .error .outOfRange else .ok (.real place d.bits)
    | _, _, _ => .error .unexpected

/-- After a date that stands alone, one space and a time. -/
def timeAfterDate (token left : List Char) : List Char :=
  match left with
  | ' ' :: rest =>
    if afterDate? token == some [] && isTimeOfDate (rest.takeWhile isTokenChar) then
      rest.dropWhile isTokenChar
    else left
  | _ => left

/-- Read a value that has no parts. -/
def readToken (cs : List Char) : Reading Node :=
  let token := cs.takeWhile isTokenChar
  let left := cs.dropWhile isTokenChar
  match tokenValue cs.length token with
  | .ok node => .ok (node, timeAfterDate token left)
  | .error fault => stop cs fault

/-! ## Arrays and tables -/

/-- Read the items of an array up to its end; `items` holds those read, last first. -/
def readItems (readItem : List Char → Reading Node) (items : List Node) (cs : List Char) :
    Reading (List Node) :=
  match skipLines cs with
  | ']' :: rest => .ok (items.reverse, rest)
  | start =>
    match readItem start with
    | .error e => .error e
    | .ok (item, left) =>
      match skipLines left with
      | ']' :: rest => .ok ((item :: items).reverse, rest)
      | ',' :: rest =>
        if rest.length < cs.length then readItems readItem (item :: items) rest else stop rest .unexpected
      | left => stop left .unexpected
termination_by cs.length

/-- Read a key path, an equals sign and a value. -/
def readPair (readItem : List Char → Reading Node) (cs : List Char) :
    Except Misread ((KeyPath × Node) × List Char) := do
  let (path, left) ← readKeyPath cs
  match left with
  | '=' :: rest =>
    let (node, left) ← readItem (skipBlanks rest)
    pure ((path, node), left)
  | _ => stop left .unexpected

/-- Read the pairs of a table between braces, at least one, up to its end. -/
def readPairs (readItem : List Char → Reading Node) (entries : Entries) (cs : List Char) :
    Reading Entries :=
  match readPair readItem cs with
  | .error e => .error e
  | .ok ((path, node), left) =>
    match entries.assign cs.length path.tables path.key node .braces with
    | .error fault => stop cs fault
    | .ok entries =>
      match skipBlanks left with
      | '\x7d' :: rest => .ok (entries, rest)
      | ',' :: rest =>
        if rest.length < cs.length then readPairs readItem entries rest else stop rest .unexpected
      | left => stop left .unexpected
termination_by cs.length

/-- Read a table after its opening brace. -/
def readBraces (readItem : List Char → Reading Node) (cs : List Char) : Reading Entries :=
  match skipBlanks cs with
  | '\x7d' :: rest => .ok ([], rest)
  | start => readPairs readItem [] start

/-- Read a value; `depth` bounds the nesting of its parts. -/
def readValue (depth : Nat) (cs : List Char) : Reading Node :=
  match depth, cs with
  | _, '"' :: rest => (readText '"' rest).map fun (s, left) => (.text cs.length s, left)
  | _, '\'' :: rest => (readText '\'' rest).map fun (s, left) => (.text cs.length s, left)
  | 0, '[' :: _ => stop cs .nestedTooDeeply
  | 0, '\x7b' :: _ => stop cs .nestedTooDeeply
  | depth + 1, '[' :: rest =>
    (readItems (readValue depth) [] rest).map fun (items, left) => (.array cs.length items, left)
  | depth + 1, '\x7b' :: rest =>
    (readBraces (readValue depth) rest).map fun (entries, left) => (.table cs.length .braces entries, left)
  | _, _ => readToken cs

end Diagnostics.Toml
