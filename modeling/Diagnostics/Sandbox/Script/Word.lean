import Diagnostics.Sandbox.Script.Reader

/-!
# Words

A word is read up to a blank or a sign. What a character means depends on the ground on which it stands: plain,
between quotes, or in a sum. Parameters in braces and sums may hold grounds of their own, so the grounds are
kept on a stack, and so are the parts of the word that are still open.
-/

namespace Diagnostics.Sandbox

/-! ## Grounds -/

/-- What surrounds a character. -/
inductive Ground
  | plain
  | double
  | single
  | sum
  deriving DecidableEq

/-- A ground, with what has been opened on it: parameters in braces, those of them between quotes, and
parentheses of a sum. -/
structure Level where
  ground : Ground
  isDouble : Bool := false
  isOwn : Bool := false
  innerQuotes : Bool := false
  braces : Nat := 0
  quotedBraces : Nat := 0
  parens : Nat := 0

/-! ## Drafts -/

/-- What has been opened in a word. -/
inductive Opening
  | word
  | parameter (name : Octets) (use : ParameterUse) (emptyToo : Bool)
  | sum

/-- An open part: what it consists of so far, latest first, and the text that is being added to. -/
structure OpenPart where
  opening : Opening
  parts : List Part := []
  run : List Char := []
  isRunQuoted : Bool := false

/-- A word that is being read. -/
structure Draft where
  level : Level
  outer : List Level := []
  part : OpenPart := ⟨.word, [], [], false⟩
  outerParts : List OpenPart := []
  hasQuotes : Bool := false
  isDocument : Bool := false

namespace OpenPart

/-- The parts, with the text at the end. -/
def settled (p : OpenPart) : List Part :=
  if p.run.isEmpty then p.parts else .text p.run.reverse p.isRunQuoted :: p.parts

/-- Add a character. -/
def put (p : OpenPart) (c : Char) (quoted : Bool) : OpenPart :=
  if p.isRunQuoted = quoted then { p with run := c :: p.run }
  else { p with parts := p.settled, run := [c], isRunQuoted := quoted }

/-- Add a part. -/
def add (p : OpenPart) (part : Part) : OpenPart := { p with parts := part :: p.settled, run := [] }

end OpenPart

namespace Draft

/-- Add a character. -/
def put (d : Draft) (c : Char) (quoted : Bool) : Draft := { d with part := d.part.put c quoted }

/-- Add a part. -/
def add (d : Draft) (part : Part) : Draft := { d with part := d.part.add part }

/-- Add a mark of quotes; documents have none. -/
def mark (d : Draft) : Draft := if d.isDocument then d else d.add .mark

/-- Open a part. -/
def openPart (d : Draft) (opening : Opening) : Draft :=
  { d with part := ⟨opening, [], [], false⟩, outerParts := d.part :: d.outerParts }

/-- Close the part that was opened last. -/
def closePart (d : Draft) : Draft :=
  match d.outerParts with
  | [] => d
  | outer :: rest =>
    let inner := d.part.settled.reverse
    let part := match d.part.opening with
      | .parameter name use emptyToo => Part.parameter name use emptyToo inner
      | _ => Part.arithmetic inner
    { d with part := outer.add part, outerParts := rest }

/-- Stand on a ground of its own. -/
def pushLevel (d : Draft) (level : Level) : Draft := { d with level, outer := d.level :: d.outer }

/-- Go back to the ground before. -/
def popLevel (d : Draft) : Draft :=
  match d.outer with
  | [] => d
  | level :: outer => { d with level, outer }

/-- Change the ground. -/
def change (d : Draft) (f : Level → Level) : Draft := { d with level := f d.level }

/-- Characters between quotes count as quoted, and so does the text of a document that is not literal. -/
def quotes (d : Draft) : Bool :=
  match d.level.ground with
  | .double | .single => !d.isDocument || d.level.isDouble || d.level.braces != 0
  | _ => false

/-- A closing brace. -/
def closeBrace (d : Draft) : Draft :=
  let l := d.level
  if !l.innerQuotes && 0 < l.braces then
    let d := d.change fun l => { l with braces := l.braces - 1 }
    let d :=
      if l.braces = 1 && l.isOwn then d.popLevel
      else if 0 < l.quotedBraces then d.change fun l => { l with quotedBraces := l.quotedBraces - 1 }
      else d
    d.closePart
  else d.put '\x7d' d.quotes

/-- The word, if everything in it has been closed. -/
def word (d : Draft) : Word := d.part.settled.reverse

end Draft

/-! ## Reading -/

namespace Reading

/-- How the commands of a substitution are read: those that follow, up to a closing parenthesis, and those of a
text of its own. -/
structure Substitutions where
  following : Reading (Option Command)
  ofText : Octets → Reading (Option Command)

/-- The text of a substitution up to its closing backquote. -/
def backquoted (isDouble : Bool) : Nat → List Char → Reading Octets
  | 0, seen => pure seen.reverse
  | fuel + 1, seen => do
    match ← nextJoined with
    | none => fault "EOF in backquote substitution"
    | some '\x60' => pure seen.reverse
    | some '\\' =>
      match ← next with
      | none => backquoted isDouble fuel ('\\' :: seen)
      | some c =>
        if c = '\\' || c = '\x60' || c = '$' || (isDouble && c = '"') then backquoted isDouble fuel (c :: seen)
        else backquoted isDouble fuel (c :: '\\' :: seen)
    | some '\n' => countLine; backquoted isDouble fuel ('\n' :: seen)
    | some c => backquoted isDouble fuel (c :: seen)

/-- What stands after the name of a parameter in braces. -/
def parameterUse : Reading (Option (ParameterUse × Bool)) := do
  let simple (c : Option Char) : Option ParameterUse :=
    match c with
    | some '\x7d' => some .value
    | some '-' => some .otherwise
    | some '+' => some .instead
    | some '?' => some .complain
    | some '=' => some .assign
    | _ => none
  match ← nextJoined with
  | some ':' => pure ((simple (← nextJoined)).map fun use => (use, true))
  | some '%' =>
    match ← nextJoined with
    | some '%' => pure (some (.cutEnd true, false))
    | c => giveBack c; pure (some (.cutEnd false, false))
  | some '#' =>
    match ← nextJoined with
    | some '#' => pure (some (.cutStart true, false))
    | c => giveBack c; pure (some (.cutStart false, false))
  | c => pure ((simple c).map fun use => (use, false))

/-- The name of a parameter that begins with a character, and whether what follows is about its length. -/
def bracedName (c : Option Char) : Reading (Option (Octets × Bool)) := do
  let named (c : Char) : Reading Octets := do
    if isNameStart c then pure (c :: (← takeJoinedWhile isNameChar lengthLimit []))
    else pure (c :: (← takeJoinedWhile Char.isDigit lengthLimit []))
  match c with
  | none => pure none
  | some c =>
    if isNameChar c then pure (some (← named c, false))
    else if c = '\x7d' then giveBack (some c); pure none
    else if c = '#' then
      match ← nextJoined with
      | none => pure (some (['#'], false))
      | some d =>
        if isNameChar d then pure (some (← named d, true))
        else
          let e ← nextJoined
          giveBack e
          if d = '\x7d' || e != some '\x7d' then giveBack (some d); pure (some (['#'], false))
          else if isSpecialName d then pure (some ([d], true))
          else pure none
    else if isSpecialName c then pure (some ([c], false))
    else pure none

/-- Open a parameter in braces. -/
def openParameter (d : Draft) (name : Octets) (use : ParameterUse) (emptyToo : Bool) : Draft :=
  let l := d.level
  let cuts := match use with
    | .cutEnd _ => true
    | .cutStart _ => true
    | _ => false
  let ground := if cuts then .plain else if l.ground = .sum then .double else l.ground
  let d :=
    if ground ≠ l.ground || l.innerQuotes then
      d.pushLevel { ground, isOwn := true, isDouble := ground ≠ .plain }
    else d
  let d := d.change fun l =>
    { l with braces := l.braces + 1, quotedBraces := if l.isDouble then l.quotedBraces + 1 else l.quotedBraces }
  d.openPart (.parameter name use emptyToo)

/-- What follows a dollar sign. -/
def substitution (inner : Substitutions) (d : Draft) : Reading Draft := do
  let r ← get
  match ← nextJoined with
  | none => pure (d.put '$' d.quotes)
  | some c =>
    if r.checks.endMark then giveBack (some c); pure (d.put '$' d.quotes)
    else if c = '(' then
      match ← nextJoined with
      | some '(' => pure ((d.pushLevel { ground := .sum, isDouble := true }).openPart .sum)
      | e => giveBack e; pure (d.add (.output (← inner.following)))
    else if c = '\x7b' then
      match ← bracedName (← nextJoined) with
      | none => pure (openParameter d [] .broken false)
      | some (name, true) =>
        match ← nextJoined with
        | some '\x7d' => giveBack (some '\x7d'); pure (openParameter d name .length false)
        | c => giveBack c; pure (openParameter d name .broken false)
      | some (name, false) =>
        match ← parameterUse with
        | some (.value, false) => pure (d.add (.parameter name .value false []))
        | some (use, emptyToo) => pure (openParameter d name use emptyToo)
        | none => pure (openParameter d name .broken false)
    else if isNameStart c then
      pure (d.add (.parameter (c :: (← takeJoinedWhile isNameChar lengthLimit [])) .value false []))
    else if c.isDigit || isSpecialName c then pure (d.add (.parameter [c] .value false []))
    else giveBack (some c); pure (d.put '$' d.quotes)

/-- A backslash. -/
def escape (d : Draft) : Reading Draft := do
  match ← next with
  | none => pure (d.put '\\' true)
  | some c =>
    let l := d.level
    let keeps := l.isDouble && c ≠ '\\' && c ≠ '\x60' && c ≠ '$' && (c ≠ '"' || (d.isDocument && l.braces = 0))
      && (c ≠ '\x7d' || l.braces = 0)
    let d := if keeps then d.put '\\' true else d
    pure { d.put c true with hasQuotes := true }

/-- Double quotes change whether a parameter in braces is in quotes of its own. -/
def toggleInner (d : Draft) : Draft :=
  (if d.level.braces ≠ 0 then d.change fun l => { l with innerQuotes := !l.innerQuotes } else d).mark

/-- Single or double quotes that end. -/
def endQuotes (d : Draft) (c : Char) : Draft :=
  if d.isDocument && d.level.braces = 0 then d.put c d.quotes
  else
    let d := if d.level.quotedBraces = 0 then d.change fun l => { l with ground := .plain, isDouble := false } else d
    let d := { d with hasQuotes := true }
    if c = '"' then toggleInner d else d.mark

/-- The text of a document ends here: its end mark stands on a line of its own. Tabs at the beginning of the line
are dropped if the document wants that. -/
def meetsEndMark (document : PendingDocument) : Reading Bool := do
  let c ← if document.isLiteral then next else nextJoined
  giveBack c
  if document.stripsTabs then modify fun r => { r with input := r.input.dropWhile (· == '\t') }
  let r ← get
  let n := document.endMark.length
  if r.input.take n = document.endMark then
    match r.input.drop n with
    | [] => set { r with input := [], hasMetEnd := true }; pure true
    | '\n' :: rest => set { r with input := rest }; endLine; pure true
    | _ => pure false
  else pure false

/-- Read a word, or the text of a document. What ended it is given back. -/
def draftFrom (inner : Substitutions) (document : Option PendingDocument) :
    Nat → Draft → Reading (Draft × Option Char)
  | 0, d => pure (d, none)
  | fuel + 1, d => do
    let c ← if d.level.ground = .single then next else nextJoined
    match c with
    | none => pure (d, none)
    | some c =>
      let more (d : Draft) : Reading (Draft × Option Char) := draftFrom inner document fuel d
      match d.level.ground, c with
      | ground, '\n' =>
        if ground = .plain && d.level.braces = 0 then pure (d, some c)
        else
          countLine
          let d := d.put c d.quotes
          match document with
          | some document => if ← meetsEndMark document then pure (d, none) else more d
          | none => more d
      | .single, '\'' => more (endQuotes d c)
      | .single, c => more (d.put c d.quotes)
      | _, '\\' => more (← escape d)
      | _, '$' => more (← substitution inner d)
      | _, '\x60' =>
        if (← get).checks.endMark then more { d.put c d.quotes with hasQuotes := true }
        else more (d.add (.output (← inner.ofText (← backquoted d.level.isDouble lengthLimit []))))
      | _, '\x7d' => more d.closeBrace
      | .plain, '\'' => more (d.change fun l => { l with ground := .single }).mark
      | .plain, '"' => more (toggleInner (d.change fun l => { l with ground := .double, isDouble := true }))
      | .double, '"' => more (endQuotes d c)
      | .sum, '(' => more ((d.put c false).change fun l => { l with parens := l.parens + 1 })
      | .sum, ')' =>
        if 0 < d.level.parens then more ((d.put c false).change fun l => { l with parens := l.parens - 1 })
        else
          match ← nextJoined with
          | some ')' => more (d.popLevel.closePart)
          | e => giveBack e; more (d.put c false)
      | .plain, c =>
        if d.level.braces = 0 && "<>;&|() \t".toList.contains c then pure (d, some c) else more (d.put c false)
      | _, c => more (d.put c d.quotes)

/-- Complain about what has been left open. -/
def checkClosed (d : Draft) : Reading Unit := do
  if d.level.ground = .sum then fault "Missing '))'"
  if d.level.ground ≠ .plain && !d.isDocument then fault "Unterminated quoted string"
  if d.level.braces ≠ 0 then fault "Missing '\x7d'"

/-- The redirection that begins with a sign. -/
def arrow (c : Char) (descriptor : Option Nat) : Reading Token := do
  if c = '>' then
    let n := descriptor.getD 1
    match ← nextJoined with
    | some '>' => pure (.redirection n (.file .append))
    | some '|' => pure (.redirection n (.file .overwrite))
    | some '&' => pure (.redirection n .duplicate)
    | e => giveBack e; pure (.redirection n (.file .write))
  else
    let n := descriptor.getD 0
    match ← nextJoined with
    | some '<' =>
      match ← nextJoined with
      | some '-' => pure (.redirection n (.document true))
      | e => giveBack e; pure (.redirection n (.document false))
    | some '&' => pure (.redirection n .duplicate)
    | some '>' => pure (.redirection n (.file .readWrite))
    | e => giveBack e; pure (.redirection n (.file .read))

/-- Read a word. One digit before a sign of redirection is a descriptor. -/
def word (inner : Substitutions) : Reading Token := do
  let (d, ending) ← draftFrom inner none lengthLimit { level := { ground := .plain } }
  checkClosed d
  let w := d.word
  let redirects := ending = some '>' || ending = some '<'
  match redirects && !d.hasQuotes, ending, w with
  | true, some c, [] => arrow c none
  | true, some c, [.text [n] false] =>
    if n.isDigit then arrow c (some (n.toNat - '0'.toNat)) else giveBack ending; pure (.word w d.hasQuotes)
  | _, _, _ => giveBack ending; pure (.word w d.hasQuotes)

/-- The ground of a document. -/
def documentLevel (isLiteral : Bool) : Level :=
  if isLiteral then { ground := .single } else { ground := .double, isDouble := true }

/-- Read the text of a document. -/
def document (inner : Substitutions) (p : PendingDocument) : Reading Unit := do
  if ← meetsEndMark p then keepDocument p.number []
  else
    let (d, _) ← draftFrom inner (some p) lengthLimit { level := documentLevel p.isLiteral, isDocument := true }
    checkClosed d
    keepDocument p.number d.word

/-- Read a whole text as that of a document without an end. -/
def freeDocument (inner : Substitutions) : Reading Word := do
  let (d, _) ← draftFrom inner none lengthLimit { level := documentLevel false, isDocument := true }
  checkClosed d
  pure d.word

end Reading

end Diagnostics.Sandbox
