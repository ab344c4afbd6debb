import Diagnostics.Regex.Parse
import Diagnostics.Regex.Spans

/-!
# Shapes of patterns

A pattern with its flags worked in, in a standard shape. Neighbouring characters are one literal, sequences
and choices are flat, a choice between sets is a set, and what all branches of a choice begin with stands once,
in front of the choice. The last of these decides which match is preferred: `.*b|.*c` looks for the longest
beginning that either letter can follow.
-/

namespace Diagnostics.Regex

/-- A pattern in its standard shape. Sequences and choices lean to the right. -/
inductive Shape
  | empty
  | literal (cs : List Char)
  | set (s : CharSet)
  | assert (a : Assertion)
  | group (index : Nat) (a : Shape)
  | repeated (min : Nat) (max : Option Nat) (greedy : Bool) (a : Shape)
  | cat (a b : Shape)
  | alt (a b : Shape)
  deriving DecidableEq

namespace Shape

/-- The same shape; sets are the same if they have the same members and belong to the same alphabet. -/
def same : Shape → Shape → Bool
  | empty, empty => true
  | literal cs, literal ds => cs == ds
  | set s, set t => s.isAscii == t.isAscii && s.spans == t.spans
  | assert a, assert b => a == b
  | group i a, group j b => i == j && same a b
  | repeated min max greedy a, repeated min' max' greedy' b =>
    min == min' && max == max' && greedy == greedy' && same a b
  | cat a b, cat c d => same a c && same b d
  | alt a b, alt c d => same a c && same b d
  | _, _ => false

/-- The size of the tree. -/
def nodes : Shape → Nat
  | group _ a => a.nodes + 1
  | repeated _ _ _ a => a.nodes + 1
  | cat a b => a.nodes + b.nodes + 1
  | alt a b => a.nodes + b.nodes + 1
  | _ => 1

/-- Nothing but the empty text can match. -/
def onlyEmpty : Shape → Bool
  | empty => true
  | literal cs => cs.isEmpty
  | set _ => false
  | assert _ => true
  | group _ a => a.onlyEmpty
  | repeated _ max _ a => max == some 0 || (max.isSome && a.onlyEmpty)
  | cat a b => a.onlyEmpty && b.onlyEmpty
  | alt a b => a.onlyEmpty && b.onlyEmpty

/-! ## Sequences -/

/-- The parts of a sequence. -/
def parts : Shape → List Shape
  | empty => []
  | cat a b => a.parts ++ b.parts
  | a => [a]

/-- Put a part in front of parts; two literals become one. -/
def consPart : Shape → List Shape → List Shape
  | literal cs, literal ds :: rest => literal (cs ++ ds) :: rest
  | a, rest => a :: rest

/-- Parts one after the other. -/
def ofParts : List Shape → Shape
  | [] => empty
  | [a] => a
  | a :: rest => cat a (ofParts rest)

/-- A sequence. -/
def sequence (as : List Shape) : Shape := ofParts ((as.flatMap parts).foldr consPart [])

/-! ## Sets and repetitions -/

/-- A set of characters; one with a single member is a literal. -/
def ofSet (s : CharSet) : Shape :=
  match s.onlyMember? with
  | some c => literal [c]
  | none => set s

/-- A repetition. What matches the empty text only is repeated once at most. -/
def repetition (min : Nat) (max : Option Nat) (greedy : Bool) (a : Shape) : Shape :=
  let atMostOnce := a.onlyEmpty
  let min := if atMostOnce then Nat.min min 1 else min
  let max := if atMostOnce then some (Nat.min (max.getD 1) 1) else max
  if min = 0 ∧ max = some 0 then empty
  else if min = 1 ∧ max = some 1 then a
  else repeated min max greedy a

/-! ## Choices -/

/-- The branches of a choice. -/
def branches : Shape → List Shape
  | alt a b => a.branches ++ b.branches
  | a => [a]

/-- Branches in order. -/
def ofBranches : List Shape → Shape
  | [] => set .none
  | [a] => a
  | a :: rest => alt a (ofBranches rest)

/-- The character of a literal of one character. -/
def char? : Shape → Option Char
  | literal [c] => some c
  | _ => none

/-- The set that a shape is. -/
def set? : Shape → Option CharSet
  | set s => some s
  | _ => none

/-- The parts that two sequences begin with. -/
def commonParts : List Shape → List Shape → List Shape
  | a :: as, b :: bs => if a.same b then a :: commonParts as bs else []
  | _, _ => []

/-- The parts that all branches begin with; a branch that is no sequence begins with nothing. -/
def sharedParts : List Shape → List Shape
  | [] => []
  | first :: rest =>
    let start (a : Shape) : List Shape :=
      match a with
      | cat a b => (cat a b).parts
      | _ => []
    rest.foldl (fun shared a => commonParts shared (start a)) (start first)

/-- A choice between branches. What they share comes first, and the choice is between what is left of them;
`depth` bounds how often that is done. -/
def choiceWithin : Nat → List Shape → Shape
  | 0, as => ofBranches as
  | depth + 1, as =>
    let as := as.flatMap branches
    match as with
    | [a] => a
    | _ =>
      match as.mapM char?, as.mapM set? with
      | some cs, _ => ofSet (.unions (cs.map .single))
      | _, some sets => ofSet (.unions sets)
      | none, none =>
        match sharedParts as with
        | [] => ofBranches as
        | shared =>
          let rests := as.map fun a => sequence (a.parts.drop shared.length)
          sequence (shared ++ [choiceWithin depth rests])

/-- A choice between branches; a single branch stands for itself. -/
def choice : List Shape → Shape
  | [a] => a
  | as => choiceWithin ((as.map nodes).foldl (· + ·) 1) as

end Shape

/-! ## Working in the flags -/

/-- The flags that have a part in the meaning of an element. -/
structure Settings where
  ignoreCase : Bool := false
  multiLine : Bool := false
  dotAll : Bool := false
  swapGreed : Bool := false
  crlf : Bool := false
  ascii : Bool := false

/-- Set one flag; white space has no part in the meaning. -/
def Settings.set (s : Settings) (flag : Flag) (value : Bool) : Settings :=
  match flag with
  | .ignoreCase => { s with ignoreCase := value }
  | .multiLine => { s with multiLine := value }
  | .dotAll => { s with dotAll := value }
  | .swapGreed => { s with swapGreed := value }
  | .unicode => { s with ascii := !value }
  | .crlf => { s with crlf := value }
  | .verbose => s

/-- Set flags in order. -/
def Settings.apply (s : Settings) (changes : FlagChanges) : Settings :=
  changes.foldl (fun s (flag, value) => s.set flag value) s

/-- Keep the ASCII characters of a set if the alphabet is ASCII. -/
def Settings.narrow (s : Settings) (set : CharSet) : CharSet := if s.ascii then .ascii set else set

/-- Close a set under case if the flag asks for it, and then take the complement if asked. -/
def Settings.close (s : Settings) (negated : Bool) (set : CharSet) : CharSet :=
  let closed := s.narrow (if s.ignoreCase then .folded set else set)
  if negated then .compl closed else closed

/-- A class that is closed under case by itself. -/
def Settings.negateIf (s : Settings) (negated : Bool) (set : CharSet) : CharSet :=
  if negated then .compl (s.narrow set) else s.narrow set

/-- Under the usual flags a set is what is written. -/
theorem Settings.close_default (negated : Bool) (set : CharSet) :
    Settings.close {} negated set = if negated then .compl set else set := rfl

theorem Settings.negateIf_default (negated : Bool) (set : CharSet) :
    Settings.negateIf {} negated set = if negated then .compl set else set := rfl

/-- What a dot stands for. -/
def Settings.dotSet (s : Settings) : CharSet :=
  if s.dotAll then .any else if s.crlf then .notLineEnd else .notNewline

/-- The characters of the class with this name. A name that nobody knows has been refused before. -/
def PropertyName.toSet (name : PropertyName) : CharSet :=
  match name.toSet? with
  | .ok set => set
  | .error _ => .none

/-- The characters of a bracket's inside. -/
def ClassItem.toSet (s : Settings) : ClassItem → CharSet
  | nothing => .none
  | char c => .single c
  | span first last => .span first last
  | octets first last => .span first last
  | posix k negated => s.close negated k.toSet
  | letter k negated => s.negateIf negated k.toSet
  | property name negated => s.close negated name.toSet
  | bracket negated a => s.close negated (a.toSet s)
  | union a b => .union (a.toSet s) (b.toSet s)
  | combined op a b =>
    let a := s.close false (a.toSet s)
    let b := s.close false (b.toSet s)
    match op with
    | .intersection => .inter a b
    | .difference => .diff a b
    | .symmetricDifference => .symmDiff a b

/-- The assertion that an anchor stands for. -/
def Anchor.toAssertion (s : Settings) : Anchor → Assertion
  | caret => if s.multiLine then .lineStart s.crlf else .textStart
  | dollar => if s.multiLine then .lineEnd s.crlf else .textEnd
  | textStart => .textStart
  | textEnd => .textEnd
  | word place => .word s.ascii place

/-- The shape of a character, which has variants if case does not matter. Under ASCII only its own characters have. -/
def charShape (s : Settings) (c : Char) : Shape :=
  if s.ignoreCase ∧ (s.ascii → c.toNat < 128) then .ofSet (s.close false (.single c)) else .literal [c]

/-- The shapes of the branches of a written pattern, and the settings in force after it. Flags that stand alone
hold to the end of their group, and a group gives back the settings that it found. -/
def Ast.toBranches (s : Settings) : Ast → List Shape × Settings
  | empty => ([.empty], s)
  | flags changes => ([.empty], s.apply changes)
  | char c => ([charShape s c], s)
  | octet c => ([charShape s c], s)
  | dot => ([.set s.dotSet], s)
  | anchor a => ([.assert (a.toAssertion s)], s)
  | letter k negated => ([.set (s.negateIf negated k.toSet)], s)
  | property name negated => ([.ofSet (s.close negated name.toSet)], s)
  | bracket negated a => ([.ofSet (s.close negated (a.toSet s))], s)
  | capture index a => ([.group index (.choice (a.toBranches s).1)], s)
  | group changes a => ([.choice (a.toBranches (s.apply changes)).1], s)
  | repeated min max greedy a =>
    let (as, after) := a.toBranches s
    ([.repetition min max (greedy != s.swapGreed) (.choice as)], after)
  | cat a b =>
    let (as, s) := a.toBranches s
    let (bs, s) := b.toBranches s
    ([.sequence [.choice as, .choice bs]], s)
  | alt a b =>
    let (as, s) := a.toBranches s
    let (bs, s) := b.toBranches s
    (.choice as :: bs, s)

/-- The shape of a written pattern. -/
def Ast.toShape (a : Ast) : Shape := .choice (a.toBranches {}).1

end Diagnostics.Regex
