import Diagnostics.Sandbox.Shell.Pattern
import Diagnostics.Sandbox.Shell.State

/-!
# Expansion

What the words of a script stand for. A word is expanded into pieces; where a command wants arguments, pieces that
come from parameters outside quotes are split into fields, and fields that are patterns stand for names of files.
-/

namespace Diagnostics.Sandbox

/-! ## Fields -/

/-- A piece of an expanded word: cells that stay together; cells that are split, with nothing where parameters are
put one after the other; all parameters in quotes, each of them a field; or a mark of quotes, which makes a field
out of nothing. -/
inductive Piece
  | fixed (cells : List Cell)
  | splitting (cells : List (Option Cell))
  | listed (parameters : List (List Cell))
  | mark

/-- The cells of a piece. -/
def Piece.cells : Piece → List Cell
  | .fixed cells => cells
  | .splitting cells => cells.filterMap id
  | .listed parameters => parameters.flatten
  | .mark => []

/-- The text of pieces. -/
def piecesText (pieces : List Piece) : Octets := pieces.flatMap fun p => cellsText p.cells

/-- Signs that split fields unless a script says otherwise. -/
def blankSigns : Octets := [' ', '\t', '\n']

/-- Fields that are being made: those that are done, latest first, the one at hand, latest cell first, and whether
there is anything in it. -/
structure Fields where
  done : List (List Cell) := []
  current : List Cell := []
  isStarted : Bool := false

namespace Fields

/-- Go on with the field at hand. -/
def put (f : Fields) (c : Cell) : Fields := { f with current := c :: f.current, isStarted := true }

/-- End the field at hand. -/
def next (f : Fields) : Fields := { done := f.current.reverse :: f.done }

/-- Split cells. After a sign that ends a field blanks are skipped, and one sign that is no blank if the field ended
with a blank; `skipping` tells whether that sign is still to come. -/
def split (signs : Octets) : Option Bool → Fields → List (Option Cell) → Fields
  | _, f, [] => f
  | skipping, f, c :: rest =>
    let isSign := c.all fun c => signs.contains c.char
    let isBlank := c.all fun c => blankSigns.contains c.char
    match skipping, isSign with
    | some true, true => split signs (some isBlank) f rest
    | some false, true =>
      if isBlank then split signs (some false) f rest
      else split signs (some false) f.next rest
    | none, true =>
      if isBlank && !f.isStarted then split signs none f rest
      else split signs (some isBlank) f.next rest
    | _, false =>
      match c with
      | some c => split signs none (f.put c) rest
      | none => split signs none f rest

/-- Add parameters, each of which but the first begins a field. -/
def list (f : Fields) : List (List Cell) → Fields
  | [] => f
  | [p] => p.foldl put f
  | p :: rest => list (p.foldl put f).next rest

/-- Add a piece. -/
def add (signs : Octets) (f : Fields) : Piece → Fields
  | .fixed cells => cells.foldl put f
  | .splitting cells => split signs none f cells
  | .listed parameters => f.list parameters
  | .mark => { f with isStarted := true }

/-- The fields of pieces. A field without anything in it is one only if all parameters in quotes were the last that
could be split. -/
def ofPieces (signs : Octets) (pieces : List Piece) : List (List Cell) :=
  let f := pieces.foldl (add signs) {}
  let last := pieces.reverse.findSome? fun p =>
    match p with
    | .splitting _ => some false
    | .listed _ => some true
    | _ => none
  (if f.isStarted || last.getD false then f.next else f).done.reverse

end Fields

/-! ## Expanding -/

/-- How a word is expanded: with fields, with home directories at its start or also after signs of assignments,
within a parameter, in quotes. -/
structure Manner where
  full : Bool := false
  home : Bool := false
  homes : Bool := false
  within : Bool := false
  quoted : Bool := false

/-- Home directories of users. -/
def homeDirectories : List (String × String) :=
  [("root", "/root"), ("daemon", "/usr/sbin"), ("bin", "/bin"), ("sys", "/dev"), ("sync", "/bin"),
    ("games", "/usr/games"), ("man", "/var/cache/man"), ("lp", "/var/spool/lpd"), ("mail", "/var/mail"),
    ("news", "/var/spool/news"), ("uucp", "/var/spool/uucp"), ("proxy", "/bin"), ("www-data", "/var/www"),
    ("backup", "/var/backups"), ("list", "/var/list"), ("irc", "/run/ircd"), ("nobody", "/nonexistent")]

/-- Signs of options as they are shown, and their names. -/
def optionTable : List (String × Option Char) :=
  [("errexit", some 'e'), ("noglob", some 'f'), ("ignoreeof", some 'I'), ("interactive", some 'i'),
    ("monitor", some 'm'), ("noexec", some 'n'), ("stdin", some 's'), ("xtrace", some 'x'),
    ("verbose", some 'v'), ("vi", some 'V'), ("emacs", some 'E'), ("noclobber", some 'C'),
    ("allexport", some 'a'), ("notify", some 'b'), ("nounset", some 'u'), ("privileged", some 'p'),
    ("nolog", none), ("debug", none)]

namespace Act

/-- The home directory of a user, or of this one. -/
def homeOf (user : Octets) : Act (Option Octets) := do
  if user.isEmpty then pure ((← get).value? "HOME".toList)
  else pure ((homeDirectories.find? fun (name, _) => name.toList = user).map fun (_, home) => home.toList)

/-- Cells outside quotes, which are split only within a parameter. -/
def plainPieces (m : Manner) (cells : List Cell) : List Piece :=
  if cells.isEmpty then [] else if m.within && !m.quoted then [.splitting (cells.map some)] else [.fixed cells]

/-- A text outside quotes, in which a tilde at the start, or after one of some signs, is a home directory. `isLast`
tells that nothing follows the text in its word. -/
def tildePieces (m : Manner) (isLast : Bool) : Nat → Bool → Bool → Octets → List Cell → Act (List Piece)
  | 0, _, _, _, seen => pure [.fixed seen.reverse]
  | fuel + 1, atStart, seenSign, cs, seen => do
    match cs with
    | [] => pure (plainPieces m seen.reverse)
    | c :: rest =>
      if atStart && c = '~' then
        let ends (d : Char) : Bool := d == '/' || (m.homes && d == ':')
        let user := rest.takeWhile (!ends ·)
        let left := rest.dropWhile (!ends ·)
        let home ← if left.isEmpty && !isLast then pure none else homeOf user
        match home with
        | some home =>
          pure (plainPieces m seen.reverse ++ [.fixed (cellsOf true home)] ++
            (← tildePieces m isLast fuel false seenSign left []))
        | none => tildePieces m isLast fuel false seenSign rest ({ char := c, quoted := false } :: seen)
      else
        let isSign := m.homes && ((c = '=' && !seenSign) || c = ':')
        tildePieces m isLast fuel isSign (seenSign || c = '=') rest ({ char := c, quoted := false } :: seen)

/-- The letters of the options that are set. -/
def optionLetters (s : Shell) : Octets :=
  optionTable.reverse.filterMap fun (_, letter) => letter.bind fun c => if s.has c then some c else none

/-- What a parameter is: a value, or all parameters. -/
inductive ParameterValue
  | single (value : Option Octets)
  | all (isStar : Bool) (values : List Octets)

/-- The value of a parameter. -/
def parameterValue (s : Shell) (name : Octets) : ParameterValue :=
  match name with
  | ['@'] => .all false s.parameters
  | ['*'] => .all true s.parameters
  | ['#'] => .single (some (numeral s.parameters.length))
  | ['?'] => .single (some (numeral s.status))
  | ['$'] => .single (some (numeral s.root))
  | ['!'] => .single (if s.lastBackground = 0 then none else some (numeral s.lastBackground))
  | ['-'] => .single (some (optionLetters s))
  | _ =>
    if name.all Char.isDigit then
      let n := (takeNumeral 10 0 name).1
      .single (if n = 0 then some s.name else s.parameters[n - 1]?)
    else .single (s.value? name)

/-- The sign between all parameters where they are one text. -/
def joiner (s : Shell) : Octets :=
  match s.value? "IFS".toList with
  | none => [' ']
  | some signs => signs.take 1

/-- All parameters as one text. -/
def joinParameters (s : Shell) (values : List Octets) : Octets := (joiner s).intercalate values

/-- The pieces of the value of a parameter. -/
def valuePieces (s : Shell) (m : Manner) (v : ParameterValue) : List Piece :=
  let one (value : Octets) : List Piece :=
    if m.quoted then [.fixed (cellsOf true value)] else [.splitting ((cellsOf false value).map some)]
  match v with
  | .single value => one (value.getD [])
  | .all isStar values =>
    if m.quoted && m.full && !isStar then
      if values.isEmpty then [] else [.listed (values.map (cellsOf true))]
    else if !m.quoted && m.full then
      [.splitting ([none].intercalate (values.map fun v => (cellsOf false v).map some))]
    else one (joinParameters s values)

/-- The text of a value, if there is one. -/
def valueText? (s : Shell) (m : Manner) : ParameterValue → Option Octets
  | .single value => value
  | .all isStar values =>
    if m.full && !(m.quoted && isStar) then some ([' '].intercalate values) else some (joinParameters s values)

/-- A parameter has no value where it needs one. -/
def failUnset (name : Octets) (text : Octets) : Act α := failWith (name ++ ": ".toList ++ text)

/-- Expand the parts of a word. `substitute` gives what commands print. -/
def expandParts (substitute : Command → Act Octets) : Nat → Manner → List Part → Act (List Piece)
  | 0, _, _ => pure []
  | _, _, [] => pure []
  | fuel + 1, m, part :: rest => do
    let again (m : Manner) (parts : List Part) : Act (List Piece) := expandParts substitute fuel m parts
    let later := { m with home := false }
    let region (cs : Octets) : List Piece :=
      if m.quoted then [.fixed (cellsOf true cs)] else [.splitting ((cellsOf false cs).map some)]
    match part with
    | .text cs true => do pure (.fixed (cellsOf true cs) :: (← again later rest))
    | .text cs false => do
      let pieces ←
        if (m.home || m.homes) && cs.contains '~' then tildePieces m rest.isEmpty (cs.length + 1) m.home false cs []
        else pure (plainPieces m (cellsOf false cs))
      pure (pieces ++ (← again { later with homes := m.homes } rest))
    | .mark =>
      match rest with
      | .parameter ['@'] .value false [] :: .mark :: rest => do
        let s ← get
        let pieces := valuePieces s { m with quoted := true } (parameterValue s ['@'])
        pure (pieces ++ (← again later rest))
      | _ =>
        let inside := rest.takeWhile fun p => match p with
          | .mark => false
          | _ => true
        let after := rest.dropWhile fun p => match p with
          | .mark => false
          | _ => true
        let pieces ← again { later with quoted := true } inside
        match after with
        | _ :: after => do pure (.mark :: pieces ++ .mark :: (← again later after))
        | [] => pure (.mark :: pieces)
    | .output none => again later rest
    | .output (some c) => do
      let text ← substitute c
      let text := (text.filter (· != '\x00')).reverse.dropWhile (· == '\n') |>.reverse
      pure (region text ++ (← again later rest))
    | .arithmetic word => do
      let text := piecesText (← again { quoted := true } word)
      let s ← get
      match reckon s.numberOf text with
      | .error e => failWith (e.message text)
      | .ok (n, assigned) =>
        assigned.reverse.forM fun (name, n) => assign name (signedNumeral n.toInt) false
        pure (region (signedNumeral n.toInt) ++ (← again later rest))
    | .parameter name use emptyToo word => do
      let s ← get
      let v := parameterValue s name
      let text := valueText? s m v
      let isMissing := match text with
        | none => true
        | some cs => emptyToo && cs.isEmpty
      let inner : Manner := { m with home := true, within := true }
      let needValue : Act Unit := do
        if text.isNone && s.has 'u' then failUnset name "parameter not set".toList
      let pieces ←
        match use with
        | .broken => fail "Bad substitution"
        | .otherwise => if isMissing then again inner word else pure (valuePieces s m v)
        | .instead => if isMissing then pure [] else again inner word
        | .assign => do
          if isMissing then
            let value := piecesText (← again { home := true, quoted := m.quoted } word)
            assignChecked name value false
            let s ← get
            pure (valuePieces s m (parameterValue s name))
          else pure (valuePieces s m v)
        | .complain => do
          if isMissing then
            let words := piecesText (← again { home := true, quoted := m.quoted } word)
            let tail := if emptyToo then " or null" else ""
            failUnset name (if word.isEmpty then ("parameter not set" ++ tail).toList else words)
          else pure (valuePieces s m v)
        | .value => do
          needValue
          pure (valuePieces s m v ++ (← again later word))
        | .length => do
          needValue
          pure (region (numeral (text.getD []).length))
        | .cutEnd longest => do
          needValue
          match text with
          | none => pure (region [])
          | some cs =>
            let cells := (← again { home := true } word).flatMap Piece.cells
            pure (region (cutBack longest (patternOf cells) cs))
        | .cutStart longest => do
          needValue
          match text with
          | none => pure (region [])
          | some cs =>
            let cells := (← again { home := true } word).flatMap Piece.cells
            pure (region (cutFront longest (patternOf cells) cs))
      pure (pieces ++ (← again later rest))

/-- A bound for the depth of words in words. -/
def depthOfWords : Nat := 1099511627776

/-- Expand a word to one text. -/
def expandText (substitute : Command → Act Octets) (m : Manner) (w : Word) : Act Octets :=
  return piecesText (← expandParts substitute depthOfWords m w)

/-- Expand a word to the cells of a pattern. -/
def expandPattern (substitute : Command → Act Octets) (w : Word) : Act (List Cell) :=
  return (← expandParts substitute depthOfWords { home := true } w).flatMap Piece.cells

/-! ## Names of files -/

/-- The names in a directory, with the directory itself and the one above it. -/
def directoryNames (path : Octets) : Act (List Octets) := do
  match ← ask (.names (if path.isEmpty then ['.'] else path)) with
  | .ok names => pure (['.'] :: ['.', '.'] :: names)
  | .error _ => pure []

/-- The files that segments of a pattern lead to, after a path that has been found. -/
def matchSegments : Octets → List (List Cell) → Act (List Octets)
  | _, [] => pure []
  | built, segment :: rest => do
    if isPattern segment then
      let pattern := patternOf segment
      let hidden := segment.head?.any fun c => c.char == '.'
      let names := (← directoryNames built).filter fun name =>
        (hidden || name.head? != some '.') && patternMatches pattern name
      if rest.isEmpty then pure (names.map (built ++ ·))
      else return (← names.mapM fun name => matchSegments (built ++ name ++ ['/']) rest).flatten
    else
      let path := built ++ cellsText segment
      if rest.isEmpty then
        match ← ask (.look path false) with
        | .ok _ => pure [path]
        | .error _ => pure []
      else matchSegments (path ++ ['/']) rest

/-- The words that a field stands for: the files that it matches, or itself. -/
def expandNames (cells : List Cell) : Act (List Octets) := do
  let bare := unescape cells
  if (← get).has 'f' || !hasSigns cells || !(splitCells bare).any isPattern then pure [cellsText cells]
  else
    let found ← matchSegments [] (splitCells bare)
    if found.isEmpty then pure [cellsText cells] else pure (found.mergeSort octetsLe)

/-- The signs that split fields. -/
def splittingSigns (s : Shell) : Octets := (s.value? "IFS".toList).getD blankSigns

/-- Expand a word to arguments. -/
def expandFields (substitute : Command → Act Octets) (w : Word) : Act (List Octets) := do
  let pieces ← expandParts substitute depthOfWords { full := true, home := true } w
  let fields := Fields.ofPieces (splittingSigns (← get)) pieces
  return (← fields.mapM expandNames).flatten

end Act

end Diagnostics.Sandbox
