/-!
# Finding one text in another

A text is cut in two around the first, or the last, place where another text occurs in it.
-/

namespace Diagnostics

/-- The rest of a list after a beginning, if the list begins with it. -/
def afterStart? [DecidableEq α] : List α → List α → Option (List α)
  | [], cs => some cs
  | _ :: _, [] => none
  | p :: ps, c :: cs => if p = c then afterStart? ps cs else none

/-- What stands before and after the first occurrence of `part`. -/
def cutAtFirst? [DecidableEq α] (part : List α) : List α → Option (List α × List α)
  | [] => (afterStart? part []).map fun after => ([], after)
  | c :: cs =>
    match afterStart? part (c :: cs) with
    | some after => some ([], after)
    | none => (cutAtFirst? part cs).map fun (before, after) => (c :: before, after)

/-- What stands before and after the last occurrence of `part`. -/
def cutAtLast? [DecidableEq α] (part : List α) : List α → Option (List α × List α)
  | [] => (afterStart? part []).map fun after => ([], after)
  | c :: cs =>
    match cutAtLast? part cs with
    | some (before, after) => some (c :: before, after)
    | none => (afterStart? part (c :: cs)).map fun after => ([], after)

/-- Whether `part` occurs in the list. -/
def occursIn [DecidableEq α] (part cs : List α) : Bool := (cutAtFirst? part cs).isSome

end Diagnostics
