import Diagnostics.Sandbox.Format
import Diagnostics.Sandbox.Shell.State

/-!
# Printing

The shell's own commands that print their arguments, as they are or in a format.
-/

namespace Diagnostics.Sandbox

/-! ## Echo -/

/-- Words with blanks between them and their escapes replaced, up to an escape that ends all. -/
def echoed : List Octets → Octets × Bool
  | [] => ([], false)
  | w :: rest =>
    match escapedArgument w, rest with
    | (cs, true), _ => (cs, true)
    | (cs, false), [] => (cs, false)
    | (cs, false), rest =>
      let (more, ended) := echoed rest
      (cs ++ ' ' :: more, ended)

/-- Print words. -/
def printWords (args : List Octets) : Act Nat := do
  let (silent, words) := match args with
    | ['-', 'n'] :: rest => (true, rest)
    | _ => (false, args)
  let (cs, ended) := echoed words
  Act.print (if silent || ended then cs else cs ++ ['\n'])
  pure 0

/-! ## Formats -/

/-- Printing in a format: the arguments that are left, and whether one was taken or was no number. -/
structure Printing where
  args : List Octets
  hasTaken : Bool := false
  status : Nat := 0

/-- What printing a format once comes to: it may be over for good. -/
inductive Round
  | done
  | over

/-- Printing in a format is a part of what a shell does. -/
abbrev PrintAct := StateT Printing Act

namespace PrintAct

/-- Take the next argument. -/
def argument : PrintAct (Option Octets) := modifyGet fun p =>
  match p.args with
  | a :: rest => (some a, { p with args := rest, hasTaken := true })
  | [] => (none, p)

/-- Complain about an argument. -/
def complain (text : Octets) : PrintAct Unit := do
  Act.complain text
  modify fun p => { p with status := 1 }

/-- Complain if an argument is not a number to its end, or is out of range. -/
def check (arg rest : Octets) (fits : Bool) : PrintAct Unit :=
  if !rest.isEmpty then
    complain (arg ++ (if rest.length = arg.length then ": expected numeric value"
      else ": not completely converted").toList)
  else if !fits then complain (arg ++ ": Numerical result out of range".toList)
  else pure ()

/-- The next argument as a number between bounds; after a quote it is a character. -/
def number (least greatest : Int) : PrintAct Int := do
  match ← argument with
  | none => pure 0
  | some arg =>
    match arg with
    | '"' :: rest => pure (rest.headD '\x00').toNat
    | '\'' :: rest => pure (rest.headD '\x00').toNat
    | _ =>
      match takeSigned none arg with
      | none => do check arg (if arg.isEmpty then [] else arg) true; pure 0
      | some (n, rest) =>
        let fits := leastNumber ≤ n && n ≤ greatest || (least = 0 && -numberCount < n && n ≤ greatest)
        check arg rest fits
        pure (if fits then n else if n < 0 then (if least = 0 then greatest else least) else greatest)

/-- The next argument as a fraction. -/
def real : PrintAct Real := do
  match ← argument with
  | none => pure (.fraction false 0 1)
  | some arg =>
    match arg with
    | '"' :: rest => pure (.fraction false (rest.headD '\x00').toNat 1)
    | '\'' :: rest => pure (.fraction false (rest.headD '\x00').toNat 1)
    | _ =>
      match takeReal arg with
      | none => do check arg arg true; pure (.fraction false 0 1)
      | some (x, rest) => do
        let (x, fits) := x.rounded .double
        check arg rest fits
        pure x

/-- A width or a precision: digits, or the next argument where a star stands. -/
def size (cs : Octets) : PrintAct (Option Int × Octets) := do
  match cs with
  | '*' :: rest => do pure (some (← number leastNumber greatestNumber), rest)
  | _ =>
    let digits := cs.takeWhile Char.isDigit
    pure (if digits.isEmpty then none else some (takeNumeral 10 0 digits).1, cs.drop digits.length)

/-- Print what goes into a slot. -/
def fill (d : Slot) : PrintAct (Option Round) := do
  let out (cs : Octets) : PrintAct (Option Round) := do Act.print cs; pure none
  match d.letter with
  | 's' => out (d.text ((← argument).getD []))
  | 'b' => do
    let (cs, ended) := escapedArgument ((← argument).getD [])
    Act.print (d.text cs)
    pure (if ended then some .over else none)
  | 'c' => out (d.pad [((← argument).getD []).headD '\x00'])
  | 'd' => out (d.signed (← number leastNumber greatestNumber))
  | 'i' => out (d.signed (← number leastNumber greatestNumber))
  | _ =>
    if "ouxX".toList.contains d.letter then
      out (d.unsigned (((← number 0 (numberCount - 1)) % numberCount).toNat))
    else out (d.real .double (← real))

/-- Letters of slots. -/
def slotLetters : List Char := "sbcdiouxXaAeEfFgG".toList

/-- Print a format once. -/
def once : Nat → Octets → PrintAct Round
  | 0, _ => pure .done
  | _, [] => pure .done
  | fuel + 1, '\\' :: rest => do
    let (cs, rest) := formatEscape rest
    Act.print cs
    once fuel rest
  | fuel + 1, '%' :: '%' :: rest => do
    Act.print ['%']
    once fuel rest
  | fuel + 1, '%' :: cs => do
    let (d, rest) := ({ letter := 's' } : Slot).flags cs
    let (width, rest) ← size rest
    let (precision, rest) ← match rest with
      | '.' :: rest => do
        let (n, rest) ← size rest
        pure (some (n.getD 0), rest)
      | rest => pure (none, rest)
    let w := width.getD 0
    let d := { d with
      left := d.left || w < 0, width := w.natAbs,
      precision := precision.bind fun n => if n < 0 then none else some n.toNat }
    match rest with
    | [] => Act.fail "missing format character"
    | letter :: rest =>
      if slotLetters.contains letter then
        match ← fill { d with letter } with
        | some r => pure r
        | none => once fuel rest
      else Act.failWith ('%' :: cs.take (cs.length - rest.length) ++ ": invalid directive".toList)
  | fuel + 1, c :: rest => do
    let plain := (c :: rest).takeWhile fun c => c != '\\' && c != '%'
    Act.print plain
    once fuel ((c :: rest).drop plain.length)

/-- Print a format as long as arguments are left, but at least once; `rounds` bounds how often. -/
def all (format : Octets) : Nat → PrintAct Round
  | 0 => pure .done
  | rounds + 1 => do
    match ← once (format.length + 1) format with
    | .done =>
      let p ← get
      if p.hasTaken && !p.args.isEmpty then all format rounds else pure .done
    | r => pure r

end PrintAct

/-- Print arguments in a format. -/
def printFormatted (args : List Octets) : Act Nat := do
  let args ← match args with
    | ['-', '-'] :: rest => pure rest
    | ('-' :: c :: _) :: _ => Act.failWith ("Illegal option -".toList ++ [c])
    | args => pure args
  match args with
  | [] => Act.fail "usage: printf format [arg ...]"
  | format :: args =>
    let (_, p) ← (PrintAct.all format (args.length + 1)).run { args }
    pure p.status

end Diagnostics.Sandbox
