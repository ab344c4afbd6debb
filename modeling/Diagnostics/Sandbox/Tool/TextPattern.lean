import Diagnostics.Sandbox.Format
import Diagnostics.Sandbox.Shell.Pattern

/-!
# Patterns for text

The patterns that tools look for in lines, in the basic and in the extended way of writing. A pattern matches as early
in a text as it can, and there as much as it can.
-/

namespace Diagnostics.Sandbox

/-! ## Patterns -/

/-- A place in a text where something begins or ends. -/
inductive TextEdge
  | lineStart
  | lineEnd
  | wordStart
  | wordEnd
  | wordEdge
  | noWordEdge
  | textStart
  | textEnd
  deriving DecidableEq

/-- A pattern. Groups have numbers, and what a group has matched may have to come again. -/
inductive TextPattern
  | nothing
  | one (p : Char → Bool)
  | edge (e : TextEdge)
  | group (n : Nat) (p : TextPattern)
  | both (a b : TextPattern)
  | either (a b : TextPattern)
  | repeated (p : TextPattern) (least : Nat) (most : Option Nat)
  | again (n : Nat)

/-- How patterns are written. `folds` tells that upper and lower case are the same, `lines` that lines within a text
have starts and ends, and `strict` that signs of the extended way mean nothing else where they make no sense. -/
structure PatternStyle where
  extended : Bool := false
  folds : Bool := false
  lines : Bool := false
  strict : Bool := false

namespace TextPattern

/-- The pattern refers to what a group has matched. -/
def refers : TextPattern → Bool
  | .again _ => true
  | .group _ p => p.refers
  | .both a b => a.refers || b.refers
  | .either a b => a.refers || b.refers
  | .repeated p _ _ => p.refers
  | _ => false

/-- The greatest number of a group. -/
def groupCount : TextPattern → Nat
  | .group n p => max n p.groupCount
  | .both a b => max a.groupCount b.groupCount
  | .either a b => max a.groupCount b.groupCount
  | .repeated p _ _ => p.groupCount
  | _ => 0

/-! ## Matching -/

/-- What has been matched so far: up to where, and the places of groups. -/
structure Reached where
  place : Nat
  groups : List (Nat × Nat × Nat) := []
  deriving DecidableEq

/-- The text in which a pattern is looked for. `lines` tells that lines within it have starts and ends, and `folds` that
upper and lower case are the same. -/
structure Scene where
  text : Array Char
  lines : Bool := false
  folds : Bool := false
  refers : Bool := false

/-- A character of a word. -/
def isWordChar (c : Char) : Bool := c == '_' || c.isAlphanum

/-- The edge is at a place. -/
def holdsAt (s : Scene) (i : Nat) : TextEdge → Bool
  | .lineStart => i == 0 || (s.lines && s.text[i - 1]? == some '\n')
  | .lineEnd => i == s.text.size || (s.lines && s.text[i]? == some '\n')
  | .textStart => i == 0
  | .textEnd => i == s.text.size
  | e =>
    let before := i != 0 && (s.text[i - 1]?).any isWordChar
    let after := (s.text[i]?).any isWordChar
    match e with
    | .wordStart => !before && after
    | .wordEnd => before && !after
    | .wordEdge => before != after
    | _ => before == after

/-- Put states in order, the furthest first, and keep one of those that are as far. -/
def tidy (s : Scene) (states : List Reached) : List Reached :=
  match states with
  | [] => []
  | [a] => [a]
  | states =>
    let sorted := states.mergeSort fun a b => b.place ≤ a.place
    (sorted.foldl (fun kept r =>
      match kept with
      | last :: _ => if last.place = r.place && (!s.refers || kept.contains r) then kept else r :: kept
      | [] => [r]) []).reverse

/-- The number of characters from a place on that satisfy a condition, at most so many. -/
def runLength (s : Scene) (p : Char → Bool) (start : Nat) : Nat → Nat
  | 0 => 0
  | n + 1 =>
    match s.text[start]? with
    | some c => if p c then runLength s p (start + 1) n + 1 else 0
    | none => 0

/-- Match again and again: what is reached after `least` times and more. `seen` are places that have been reached. -/
def rounds (s : Scene) (next : Reached → List Reached) (least : Nat) (most : Option Nat) :
    Nat → Nat → List Reached → List Reached → List Reached
  | 0, _, _, done => done
  | fuel + 1, count, level, done =>
    let done := if least ≤ count then level.reverse ++ done else done
    if most.any (· ≤ count) then done
    else
      let further := tidy s (level.flatMap fun r => (next r).filter fun n => n.place ≠ r.place || count < least)
      let fresh := if least ≤ count && !s.refers then
          further.filter fun r => !done.any fun d => d.place = r.place
        else further
      if fresh.isEmpty then done else rounds s next least most fuel (count + 1) fresh done

/-- Compare characters, in either case if that does not matter. -/
def sameChar (folds : Bool) (a b : Char) : Bool := a == b || (folds && a.toLower == b.toLower)

/-- Everything that can be reached by matching a pattern, the furthest first. -/
def reach (s : Scene) : TextPattern → Reached → List Reached
  | .nothing, r => [r]
  | .one p, r =>
    match s.text[r.place]? with
    | some c => if p c then [{ r with place := r.place + 1 }] else []
    | none => []
  | .edge e, r => if holdsAt s r.place e then [r] else []
  | .group n p, r =>
    (reach s p r).map fun after =>
      { after with groups := (n, r.place, after.place) :: after.groups.filter (·.1 ≠ n) }
  | .both a b, r => tidy s ((reach s a r).flatMap fun r => reach s b r)
  | .either a b, r => tidy s (reach s a r ++ reach s b r)
  | .repeated (.one p) least most, r =>
    let n := runLength s p r.place (min (most.getD s.text.size) s.text.size)
    if n < least then [] else (List.range (n - least + 1)).map fun k => { r with place := r.place + (n - k) }
  | .repeated p least most, r =>
    tidy s (rounds s (reach s p) least most (s.text.size + least + 2) 0 [r] [])
  | .again n, r =>
    match r.groups.lookup n with
    | some (a, b) =>
      let length := b - a
      let same := (List.range length).all fun k =>
        match s.text[a + k]?, s.text[r.place + k]? with
        | some c, some d => sameChar s.folds c d
        | _, _ => false
      if same then [{ r with place := r.place + length }] else []
    | none => []

/-- The first place from a start on at which the pattern matches, and what it matches there. -/
def searchFrom (s : Scene) (p : TextPattern) : Nat → Nat → Option (Nat × Reached)
  | 0, _ => none
  | fuel + 1, start =>
    match reach s p { place := start } with
    | r :: _ => some (start, r)
    | [] => searchFrom s p fuel (start + 1)

/-- The characters by which a match may begin, if only they can. -/
def firstChars : TextPattern → Option (Char → Bool)
  | .one p => some p
  | .group _ p => firstChars p
  | .both (.edge _) _ => none
  | .both a _ => firstChars a
  | .either a b =>
    match firstChars a, firstChars b with
    | some p, some q => some fun c => p c || q c
    | _, _ => none
  | .repeated p least _ => if 0 < least then firstChars p else none
  | _ => none

/-- The next place from a start on whose character satisfies a condition. -/
def nextPlace (text : Array Char) (p : Char → Bool) : Nat → Nat → Option Nat
  | 0, _ => none
  | fuel + 1, start =>
    match text[start]? with
    | some c => if p c then some start else nextPlace text p fuel (start + 1)
    | none => none

/-- The first match from a place on at which a match may begin. -/
def searchFirst (s : Scene) (pattern : TextPattern) (p : Char → Bool) : Nat → Nat → Option (Nat × Reached)
  | 0, _ => none
  | fuel + 1, start =>
    match nextPlace s.text p (s.text.size + 1) start with
    | none => none
    | some i =>
      match reach s pattern { place := i } with
      | r :: _ => some (i, r)
      | [] => searchFirst s pattern p fuel (i + 1)

/-- The first match in a text from a place on. -/
def search (style : PatternStyle) (p : TextPattern) (text : Array Char) (start : Nat) : Option (Nat × Reached) :=
  let s : Scene := { text, lines := style.lines, folds := style.folds, refers := p.refers }
  match p.firstChars with
  | some q => searchFirst s p q (text.size + 2) start
  | none => searchFrom s p (text.size + 1 - start) start

/-- The match at the very start of a text. -/
def matchAtStart (style : PatternStyle) (p : TextPattern) (text : Array Char) : Option Reached :=
  (reach { text, lines := style.lines, folds := style.folds, refers := p.refers } p { place := 0 }).head?

/-! ## Reading patterns -/

/-- Why a pattern cannot be read. -/
inductive Fault
  | nothingInBracket
  | openBracket
  | openGroup
  | closedGroup
  | openCount
  | badCount
  | bigCount
  | nothingBefore
  | lastBackslash
  | badReference
  | badRange
  | badClass
  deriving DecidableEq

/-- The fault in words. -/
def Fault.message : Fault → String
  | .nothingInBracket => "Invalid regular expression"
  | .openBracket => "Unmatched [, [^, [:, [., or [="
  | .openGroup => "Unmatched ( or \\("
  | .closedGroup => "Unmatched ) or \\)"
  | .openCount => "Unmatched \\\x7b"
  | .badCount => "Invalid content of \\\x7b\\\x7d"
  | .bigCount => "Regular expression too big"
  | .nothingBefore => "Invalid preceding regular expression"
  | .lastBackslash => "Trailing backslash"
  | .badReference => "Invalid back reference"
  | .badRange => "Invalid range end"
  | .badClass => "Invalid character class name"

/-- Reading: what is left, and how many groups have been opened and closed. -/
structure Reading where
  rest : Octets
  opened : Nat := 0
  closed : List Nat := []

/-- Reading a pattern, which may fail. -/
abbrev Read := StateT Reading (Except Fault)

/-- The character in upper or in lower case satisfies a condition. -/
def either? (folds : Bool) (p : Char → Bool) : Char → Bool :=
  if folds then fun c => p c || p c.toLower || p c.toUpper else p

/-- Something between signs in a bracket, as in `[:alpha:]`. -/
def named? (sign : Char) (cs : Octets) : Option (Octets × Octets) :=
  let rec go (seen : Octets) : Octets → Option (Octets × Octets)
    | a :: b :: rest => if a = sign && b = ']' then some (seen.reverse, rest) else go (a :: seen) (b :: rest)
    | _ => none
  go [] cs

/-- The members of a bracket. -/
def bracketMembers : Nat → Bool → Octets → List (Char → Bool) → Except Fault (List (Char → Bool) × Octets)
  | 0, _, _, _ => .error .openBracket
  | fuel + 1, isFirst, cs, seen => do
    let range (a : Char) (rest : Octets) : Except Fault (List (Char → Bool) × Octets) :=
      match rest with
      | '-' :: ']' :: _ => bracketMembers fuel false rest ((· == a) :: seen)
      | '-' :: b :: more => do
        let (b, more) ← match b, more with
          | '[', '.' :: more =>
            match named? '.' more with
            | some ([c], rest) => pure (c, rest)
            | _ => throw .openBracket
          | b, more => pure (b, more)
        if b < a then throw .badRange
        bracketMembers fuel false more ((fun c => a ≤ c && c ≤ b) :: seen)
      | rest => bracketMembers fuel false rest ((· == a) :: seen)
    match cs with
    | [] => throw .openBracket
    | ']' :: rest => if isFirst then range ']' rest else pure (seen, rest)
    | '[' :: ':' :: rest =>
      match named? ':' rest with
      | some (name, rest) =>
        match characterClasses.find? fun (n, _) => n.toList = name with
        | some (_, p) => bracketMembers fuel false rest (p :: seen)
        | none => throw .badClass
      | none => throw .openBracket
    | '[' :: '=' :: rest =>
      match named? '=' rest with
      | some ([c], rest) => bracketMembers fuel false rest ((· == c) :: seen)
      | _ => throw .openBracket
    | '[' :: '.' :: rest =>
      match named? '.' rest with
      | some ([c], rest) => range c rest
      | _ => throw .openBracket
    | c :: rest => range c rest

/-- A bracket after its first sign. -/
def bracket (folds : Bool) (cs : Octets) : Except Fault (TextPattern × Octets) := do
  let (negated, cs) := match cs with
    | '^' :: rest => (true, rest)
    | cs => (false, cs)
  if cs.isEmpty then throw .nothingInBracket
  let (members, rest) ← bracketMembers (cs.length + 1) true cs []
  let holds := either? folds fun c => members.any (· c)
  pure (.one fun c => holds c != negated, rest)

/-- The greatest number of repetitions. -/
def mostRepetitions : Nat := 32767

/-- The numbers of a repetition, up to its end. -/
def counts? (style : PatternStyle) (cs : Octets) : Option (Except Fault (Nat × Option Nat × Octets)) :=
  let a := cs.takeWhile Char.isDigit
  let rest := cs.drop a.length
  let number (ds : Octets) : Nat := (takeNumeral 10 0 ds).1
  let ended (least : Nat) (most : Option Nat) (rest : Octets) : Option (Except Fault (Nat × Option Nat × Octets)) :=
    let close := if style.extended then ['\x7d'] else ['\\', '\x7d']
    let lenient := style.extended && !style.strict
    if close.isPrefixOf rest then
      if most.any (· < least) then some (.error .badCount)
      else if mostRepetitions < max least (most.getD 0) then some (.error .bigCount)
      else some (.ok (least, most, rest.drop close.length))
    else if lenient then none
    else some (.error (if rest.isEmpty then .openCount else .badCount))
  match rest with
  | ',' :: more =>
    let b := more.takeWhile Char.isDigit
    ended (number a) (if b.isEmpty then none else some (number b)) (more.drop b.length)
  | rest =>
    if a.isEmpty then
      if style.extended && !style.strict then none
      else some (.error (if rest.isEmpty then .openCount else .badCount))
    else ended (number a) (some (number a)) rest

/-- The patterns that follow a backslash as letters. -/
def letterPattern? : Char → Option TextPattern
  | 'w' => some (.one isWordChar)
  | 'W' => some (.one (!isWordChar ·))
  | 's' => some (.one fun c => c == ' ' || ('\x09' ≤ c && c ≤ '\x0d'))
  | 'S' => some (.one fun c => !(c == ' ' || ('\x09' ≤ c && c ≤ '\x0d')))
  | 'b' => some (.edge .wordEdge)
  | 'B' => some (.edge .noWordEdge)
  | '<' => some (.edge .wordStart)
  | '>' => some (.edge .wordEnd)
  | '\x60' => some (.edge .textStart)
  | '\'' => some (.edge .textEnd)
  | _ => none

/-- A character as a pattern. -/
def plain (style : PatternStyle) (c : Char) : TextPattern := .one (sameChar style.folds c)

/-- What can be read next within a group or a branch ends it. -/
def endsBranch (style : PatternStyle) (depth : Nat) : Octets → Bool
  | [] => true
  | '\\' :: '|' :: _ => !style.extended
  | '\\' :: ')' :: _ => !style.extended
  | '|' :: _ => style.extended
  | ')' :: _ => style.extended && (depth ≠ 0 || style.strict)
  | _ => false

/-- Repetitions after a pattern. -/
def repetitions (style : PatternStyle) : Nat → TextPattern → Read TextPattern
  | 0, p => pure p
  | fuel + 1, p => do
    let r ← get
    let go (least : Nat) (most : Option Nat) (rest : Octets) : Read TextPattern := do
      set { r with rest }
      repetitions style fuel (.repeated p least most)
    let counted (rest : Octets) : Read TextPattern :=
      match counts? style rest with
      | some (.ok (least, most, rest)) => go least most rest
      | some (.error f) => throw f
      | none => pure p
    match r.rest, style.extended with
    | '*' :: rest, _ => go 0 none rest
    | '+' :: rest, true => go 1 none rest
    | '?' :: rest, true => go 0 (some 1) rest
    | '\x7b' :: rest, true => counted rest
    | '\\' :: '+' :: rest, false => go 1 none rest
    | '\\' :: '?' :: rest, false => go 0 (some 1) rest
    | '\\' :: '\x7b' :: rest, false => counted rest
    | _, _ => pure p

mutual

/-- Read branches up to the end of a group or of all. -/
def branches (style : PatternStyle) : Nat → Nat → Read TextPattern
  | 0, _ => pure .nothing
  | fuel + 1, depth => do
    let first ← branch style fuel depth true .nothing
    let r ← get
    match r.rest, style.extended with
    | '|' :: rest, true => do
      set { r with rest }
      pure (.either first (← branches style fuel depth))
    | '\\' :: '|' :: rest, false => do
      set { r with rest }
      pure (.either first (← branches style fuel depth))
    | _, _ => pure first

/-- Read a branch. At its start a star is a plain character in the basic way of writing. -/
def branch (style : PatternStyle) : Nat → Nat → Bool → TextPattern → Read TextPattern
  | 0, _, _, seen => pure seen
  | fuel + 1, depth, atStart, seen => do
    let r ← get
    if endsBranch style depth r.rest then pure seen
    else
      let add (p : TextPattern) : TextPattern := if atStart then (match seen with
        | .nothing => p
        | seen => .both seen p) else .both seen p
      let item (p : TextPattern) (rest : Octets) : Read TextPattern := do
        set { r with rest }
        let p ← repetitions style fuel p
        branch style fuel depth false (add p)
      let anchor (e : TextEdge) (rest : Octets) : Read TextPattern := do
        set { r with rest }
        if style.extended then
          if style.strict && e = .lineStart && rest.head?.any "*+?\x7b".toList.contains then throw .nothingBefore
          let p ← repetitions style fuel (.edge e)
          branch style fuel depth false (add p)
        else branch style fuel depth (e == .lineStart) (add (.edge e))
      let group (rest : Octets) : Read TextPattern := do
        let n := r.opened + 1
        set { r with rest, opened := n }
        let inner ← branches style fuel (depth + 1)
        let r ← get
        let close := if style.extended then [')'] else ['\\', ')']
        if close.isPrefixOf r.rest then
          set { r with rest := r.rest.drop close.length, closed := n :: r.closed }
          let p ← repetitions style fuel (.group n inner)
          branch style fuel depth false (add p)
        else throw .openGroup
      match r.rest with
      | [] => pure seen
      | '\\' :: [] => throw .lastBackslash
      | '\\' :: c :: rest =>
        if c = '(' && !style.extended then group rest
        else if c = '\x7b' && !style.extended then
          if atStart then throw .nothingBefore else item (plain style '\x7b') rest
        else if c.isDigit && c ≠ '0' then
          let n := c.toNat - '0'.toNat
          if r.closed.contains n then item (.again n) rest else throw .badReference
        else if c = 'n' then item (plain style '\n') rest
        else
          match letterPattern? c with
          | some p => item p rest
          | none => item (plain style c) rest
      | '[' :: rest => do
        match bracket style.folds rest with
        | .ok (p, rest) => item p rest
        | .error f => throw f
      | '.' :: rest => item (.one fun _ => true) rest
      | '(' :: rest => if style.extended then group rest else item (plain style '(') rest
      | '^' :: rest =>
        if style.extended || atStart then anchor .lineStart rest else item (plain style '^') rest
      | '$' :: rest =>
        if style.extended || endsBranch style depth rest then anchor .lineEnd rest else item (plain style '$') rest
      | '*' :: rest =>
        if style.extended && atStart then
          if style.strict then throw .nothingBefore
          else do
            set { r with rest }
            branch style fuel depth true seen
        else item (plain style '*') rest
      | c :: rest =>
        if style.extended && atStart && style.strict && (c = '+' || c = '?' || c = '\x7b') then throw .nothingBefore
        else if style.extended && atStart && (c = '+' || c = '?') then do
          set { r with rest }
          branch style fuel depth true seen
        else item (plain style c) rest

end

/-- Read a pattern. -/
def ofText (style : PatternStyle) (cs : Octets) : Except Fault TextPattern := do
  let (p, r) ← (branches style (2 * cs.length + 4) 0).run { rest := cs }
  match r.rest with
  | [] => pure p
  | _ => throw .closedGroup

end TextPattern

end Diagnostics.Sandbox
