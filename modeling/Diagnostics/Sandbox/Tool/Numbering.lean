import Diagnostics.Sandbox.Tool.Number
import Diagnostics.Sandbox.Tool.TextPattern

/-!
# Numbers before lines

The tool that writes lines with their numbers. Lines that hold nothing but signs divide a text into pages, each with a
head, a body and a foot, and in each of these parts other lines may be counted.
-/

namespace Diagnostics.Sandbox

/-- A part of a page. -/
inductive PagePart
  | head
  | body
  | foot
  deriving DecidableEq

/-- Which lines are counted. -/
inductive Counted
  | all
  | filled
  | none
  | matching (p : TextPattern)

/-- How lines are numbered. `join` empty lines count as one, and `repeats` tells that each part begins anew. -/
structure Numbering where
  counted : PagePart → Counted
  divider : Octets
  first : Int
  step : Int
  join : Nat
  repeats : Bool
  width : Nat
  between : Octets
  left : Bool
  zeros : Bool

/-- Where numbering has come to. -/
structure NumberPlace where
  part : PagePart := .body
  number : Int
  empties : Nat := 0

namespace Numbering

/-- A number in its field. -/
def shown (n : Numbering) (number : Int) : Octets :=
  ({ left := n.left, zeros := n.zeros, width := n.width, letter := 'd' } : Slot).signed number ++ n.between

/-- The room of a number. -/
def blank (n : Numbering) : Octets := List.replicate (n.width + n.between.length) ' '

/-- The part of a page that a line begins. -/
def opens? (n : Numbering) (line : Octets) : Option PagePart :=
  let times (k : Nat) : Octets := (List.replicate k n.divider).flatten
  if n.divider.length < 2 then Option.none
  else if line = times 3 then some .head
  else if line = times 2 then some .body
  else if line = times 1 then some .foot
  else Option.none

/-- A line as it is written, and where numbering has come to. -/
def line (n : Numbering) (place : NumberPlace) (text : Octets) : Octets × NumberPlace :=
  let numbered (place : NumberPlace) : Octets × NumberPlace :=
    (n.shown place.number ++ text ++ ['\n'], { place with number := place.number + n.step })
  let plain (place : NumberPlace) : Octets × NumberPlace := (n.blank ++ text ++ ['\n'], place)
  match n.opens? text with
  | some part => (['\n'], { place with part, number := if n.repeats then n.first else place.number })
  | Option.none =>
    match n.counted place.part with
    | .all =>
      if n.join ≤ 1 then numbered place
      else if !text.isEmpty || place.empties + 1 = n.join then numbered { place with empties := 0 }
      else plain { place with empties := place.empties + 1 }
    | .filled => if text.isEmpty then plain place else numbered place
    | .none => plain place
    | .matching p => if (p.search {} text.toArray 0).isSome then numbered place else plain place

end Numbering

namespace Work

/-- Which lines of a part are counted, in the words of an option. -/
def countedLines (part : String) (word : Octets) : Work Counted := do
  match word with
  | ['a'] => pure .all
  | ['t'] => pure .filled
  | ['n'] => pure .none
  | 'p' :: text =>
    match TextPattern.ofText {} text with
    | .ok p => pure (.matching p)
    | .error f => fail f.message.toList
  | _ => do
    complain (("invalid " ++ part ++ " numbering style: ").toList ++ quoteWord word)
    pointToHelp

/-- Write lines with their numbers. -/
def nl (args : List Octets) : Work Nat := do
  let (settings, paths) ← readOptions
    [⟨some 'b', "body-numbering", .word⟩, ⟨some 'd', "section-delimiter", .word⟩,
      ⟨some 'f', "footer-numbering", .word⟩, ⟨some 'h', "header-numbering", .word⟩,
      ⟨some 'i', "line-increment", .word⟩, ⟨some 'l', "join-blank-lines", .word⟩,
      ⟨some 'n', "number-format", .word⟩, ⟨some 'p', "no-renumber", .nothing⟩,
      ⟨some 's', "number-separator", .word⟩, ⟨some 'v', "starting-line-number", .word⟩,
      ⟨some 'w', "number-width", .word⟩] args
  let part (name part : String) (usual : Counted) : Work Counted :=
    match settings.last? name with
    | some word => countedLines part word
    | none => pure usual
  let number (name what : String) (least most usual : Int) : Work Int :=
    match settings.last? name with
    | some word => numberBetween what least most word
    | none => pure usual
  let head ← part "header-numbering" "header" .none
  let body ← part "body-numbering" "body" .filled
  let foot ← part "footer-numbering" "footer" .none
  let first ← number "starting-line-number" "invalid starting line number" leastNumber greatestNumber 1
  let step ← number "line-increment" "invalid line number increment" leastNumber greatestNumber 1
  let join ← number "join-blank-lines" "invalid line number of blank lines" 1 greatestNumber 1
  let width ← number "number-width" "invalid line number field width" 1 2147483647 6
  let (left, zeros) ← match settings.last? "number-format" with
    | none => pure (false, false)
    | some word =>
      match String.ofList word with
      | "ln" => pure (true, false)
      | "rn" => pure (false, false)
      | "rz" => pure (false, true)
      | _ => misuse ("invalid line numbering format: ".toList ++ quoteWord word)
  let divider := match settings.last? "section-delimiter" with
    | none => "\\:".toList
    | some [c] => [c, ':']
    | some word => word
  let n : Numbering :=
    { counted := fun | .head => head | .body => body | .foot => foot
      divider, first, step, join := join.toNat, repeats := !settings.has "no-renumber", width := width.toNat
      between := (settings.last? "number-separator").getD ['\t'], left, zeros }
  let _ ← (if paths.isEmpty then [['-']] else paths).foldlM (fun (place : NumberPlace) path => do
    match ← contentOf path with
    | .error e => do
      blameFile path e
      pure place
    | .ok content =>
      (linesOf content).foldlM (fun place text => do
        let (shown, place) := n.line place (bare text)
        print shown
        pure place) place) { number := n.first }
  status

end Work

end Diagnostics.Sandbox
