import Diagnostics.Regex.Token

/-!
# From tokens to the tree

One pass over the tokens with the groups that are open around the present place. A repetition applies to
the last element of the present sequence; capture groups are numbered by their opening parentheses.

A tree is refused if it names a property that nobody knows. Under the flag that takes the alphabet to be ASCII it is
also refused if something in it stands for other characters, or might match a part of one.
-/

namespace Diagnostics.Regex

/-- A choice that is being read: its finished branches and the elements of the branch at hand, last
first. -/
structure Branches where
  done : List Ast := []
  current : List Ast := []

namespace Branches

/-- Add an element to the branch at hand. -/
def push (b : Branches) (a : Ast) : Branches := { b with current := a :: b.current }

/-- Begin the next branch. -/
def next (b : Branches) : Branches := { done := Ast.sequence b.current.reverse :: b.done }

/-- The choice that has been read. -/
def value (b : Branches) : Ast := Ast.choice (b.next.done.reverse)

end Branches

/-- A group whose end has not been reached. -/
structure OpenGroup where
  kind : GroupKind
  index : Nat
  before : Branches

/-- The tree of a finished group. -/
def OpenGroup.close (g : OpenGroup) (inside : Ast) : Ast :=
  match g.kind with
  | .capture _ => .capture g.index inside
  | .plain changes => .group changes inside

/-- The state of the pass. -/
structure Assembly where
  branches : Branches := {}
  groups : List OpenGroup := []
  captures : Nat := 0
  names : List String := []

namespace Assembly

/-- Elements that a repetition can apply to; flags that stand alone are none. -/
def isRepeatable : Ast → Bool
  | .flags _ => false
  | .empty => false
  | _ => true

/-- Take in one token. -/
def step (s : Assembly) : Token → Except SyntaxError Assembly
  | .element a => .ok { s with branches := s.branches.push a }
  | .flags changes => .ok { s with branches := s.branches.push (.flags changes) }
  | .bar => .ok { s with branches := s.branches.next }
  | .opening kind =>
    let opened (index : Nat) : Assembly :=
      { s with branches := {}, groups := { kind, index, before := s.branches } :: s.groups }
    match kind with
    | .plain _ => .ok (opened 0)
    | .capture none => .ok { opened (s.captures + 1) with captures := s.captures + 1 }
    | .capture (some name) =>
      if name ∈ s.names then .error (.repeatedGroupName name)
      else .ok { opened (s.captures + 1) with captures := s.captures + 1, names := name :: s.names }
  | .closing =>
    match s.groups with
    | [] => .error .unopenedGroup
    | g :: groups => .ok { s with branches := g.before.push (g.close s.branches.value), groups }
  | .repetition min max greedy =>
    match s.branches.current with
    | [] => .error .nothingToRepeat
    | a :: before =>
      if isRepeatable a then
        .ok { s with branches := { s.branches with current := .repeated min max greedy a :: before } }
      else .error .nothingToRepeat

/-- The tree when all tokens have been taken in. -/
def finish (s : Assembly) : Except SyntaxError Ast :=
  if s.groups.isEmpty then .ok s.branches.value else .error .unclosedGroup

end Assembly

/-- The tree of a list of tokens. -/
def Ast.ofTokens (ts : List Token) : Except SyntaxError Ast := do
  let s ← ts.foldlM Assembly.step {}
  s.finish

/-! ## What a tree may not hold -/

/-- The fault, if the condition holds. -/
def SyntaxError.onlyIf (e : SyntaxError) (condition : Bool) : Option SyntaxError := if condition then some e else none

/-- The fault in the name of a property. -/
def PropertyName.fault? (ascii : Bool) (name : PropertyName) : Option SyntaxError :=
  if ascii then some .unicodeNotAllowed
  else
    match name.toSet? with
    | .ok _ => none
    | .error e => some e

/-- The first fault inside a bracket. All sets of octets that are negated hold more than ASCII. -/
def ClassItem.fault? (ascii : Bool) : ClassItem → Option SyntaxError
  | nothing => none
  | char c => SyntaxError.unicodeNotAllowed.onlyIf (ascii && 128 ≤ c.toNat)
  | span _ last => SyntaxError.unicodeNotAllowed.onlyIf (ascii && 128 ≤ last.toNat)
  | octets _ _ => SyntaxError.notUtf8.onlyIf ascii
  | posix _ negated => SyntaxError.notUtf8.onlyIf (ascii && negated)
  | letter _ negated => SyntaxError.notUtf8.onlyIf (ascii && negated)
  | property name _ => name.fault? ascii
  | bracket negated a => (a.fault? ascii).or (SyntaxError.notUtf8.onlyIf (ascii && negated))
  | union a b => (a.fault? ascii).or (b.fault? ascii)
  | combined _ a b => (a.fault? ascii).or (b.fault? ascii)

namespace Ast

/-- The alphabet after changes of flags is ASCII. -/
def alphabetAfter (ascii : Bool) (changes : FlagChanges) : Bool := ((changes.value? .unicode).map (!·)).getD ascii

/-- The first fault of a tree, and whether the alphabet is ASCII after it. -/
def faultFrom (ascii : Bool) : Ast → Option SyntaxError × Bool
  | empty => (none, ascii)
  | flags changes => (none, alphabetAfter ascii changes)
  | char _ => (none, ascii)
  | octet _ => (SyntaxError.notUtf8.onlyIf ascii, ascii)
  | dot => (SyntaxError.notUtf8.onlyIf ascii, ascii)
  | anchor _ => (none, ascii)
  | letter _ negated => (SyntaxError.notUtf8.onlyIf (ascii && negated), ascii)
  | property name _ => (name.fault? ascii, ascii)
  | bracket negated a => ((a.fault? ascii).or (SyntaxError.notUtf8.onlyIf (ascii && negated)), ascii)
  | capture _ a => ((a.faultFrom ascii).1, ascii)
  | group changes a => ((a.faultFrom (alphabetAfter ascii changes)).1, ascii)
  | repeated _ _ _ a => a.faultFrom ascii
  | cat a b =>
    let (fault, ascii) := a.faultFrom ascii
    let (next, ascii) := b.faultFrom ascii
    (fault.or next, ascii)
  | alt a b =>
    let (fault, ascii) := a.faultFrom ascii
    let (next, ascii) := b.faultFrom ascii
    (fault.or next, ascii)

/-- The first fault of a tree. -/
def fault? (a : Ast) : Option SyntaxError := (a.faultFrom false).1

/-- Read a pattern. -/
def parse (source : String) : Except SyntaxError Ast := do
  let a ← Ast.ofTokens (← tokens source)
  if a.depth ≤ Ast.depthLimit then
    match a.fault? with
    | some e => .error e
    | none => if a.weight ≤ Ast.weightLimit then pure a else .error .tooLarge
  else .error .nestedTooDeeply

end Ast

end Diagnostics.Regex
