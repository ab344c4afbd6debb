import Diagnostics.Sandbox.Format
import Diagnostics.Sandbox.Tool.Basic

/-!
# Tools that print

Tools that print their arguments, as they are or in a format, and tools that do even less.
-/

namespace Diagnostics.Sandbox

/-! ## Escapes -/

/-- Up to so many digits of a base: the character with that number. -/
def numbered (base count : Nat) (cs : Octets) : Option (Char × Octets) :=
  let digits := (cs.take count).takeWhile fun c => (digitIn? base c).isSome
  if digits.isEmpty then none else some (octet (takeNumeral base 0 digits).1, cs.drop digits.length)

/-- Replace escapes; the flag tells that one ended the text. After `\0` three more digits count, or two. -/
def unescapeWith (longOctal : Bool) : Nat → Octets → List Octets → Octets × Bool
  | 0, _, seen => (seen.reverse.flatten, false)
  | _, [], seen => (seen.reverse.flatten, false)
  | fuel + 1, '\\' :: c :: rest, seen =>
    match letterEscape? c with
    | some d => unescapeWith longOctal fuel rest ([d] :: seen)
    | none =>
      if c = 'c' then (seen.reverse.flatten, true)
      else if c = '\\' then unescapeWith longOctal fuel rest (['\\'] :: seen)
      else if c = '"' && longOctal then unescapeWith longOctal fuel rest (['"'] :: seen)
      else if c = 'x' then
        match numbered 16 2 rest with
        | some (d, rest) => unescapeWith longOctal fuel rest ([d] :: seen)
        | none => unescapeWith longOctal fuel rest (['\\', 'x'] :: seen)
      else if isOctal c then
        let (d, rest) := if c = '0' then (numbered 8 3 rest).getD ('\x00', rest) else
          (numbered 8 3 (c :: rest)).getD (c, rest)
        unescapeWith longOctal fuel rest ([d] :: seen)
      else unescapeWith longOctal fuel rest (['\\', c] :: seen)
  | fuel + 1, c :: rest, seen => unescapeWith longOctal fuel rest ([c] :: seen)

namespace Work

/-! ## Words -/

/-- Take the options of the tool that prints its words: whether a newline ends them and whether escapes mean
something. -/
def echoOptions : Bool → Bool → List Octets → Bool × Bool × List Octets
  | newline, escapes, [] => (newline, escapes, [])
  | newline, escapes, word :: rest =>
    match word with
    | '-' :: c :: cs =>
      if (c :: cs).all fun c => "neE".toList.contains c then
        echoOptions (newline && !(c :: cs).contains 'n')
          ((c :: cs).foldl (fun escapes c => if c = 'e' then true else if c = 'E' then false else escapes) escapes) rest
      else (newline, escapes, word :: rest)
    | _ => (newline, escapes, word :: rest)

/-- Print words. -/
def echo (args : List Octets) : Work Nat := do
  let (newline, escapes, words) := echoOptions true false args
  let text := [' '].intercalate words
  let (shown, ended) := if escapes then unescapeWith false (text.length + 1) text [] else (text, false)
  print shown
  if newline && !ended then print ['\n']
  pure 0

/-- Print a line again and again. -/
def repeatLine (line : Octets) : Nat → Work Unit
  | 0 => pure ()
  | fuel + 1 => do
    send line
    if (← get).outputError.isNone then repeatLine line fuel

/-- Print words again and again. -/
def yes (args : List Octets) : Work Nat := do
  let (_, args) ← readLeadingOptions [] args
  let line := [' '].intercalate (if args.isEmpty then [['y']] else args) ++ ['\n']
  repeatLine (List.replicate (holdLimit / line.length + 1) line).flatten Task.moveLimit
  pure 1

/-- Print the environment, or variables of it. -/
def printEnvironment (args : List Octets) : Work Nat := do
  let (settings, names) ← readLeadingOptions [⟨some '0', "null", .nothing⟩] args
  let ending := if settings.has "null" then '\x00' else '\n'
  let environment := (← get).environment
  if names.isEmpty then
    environment.forM fun (name, value) => print (name ++ '=' :: value ++ [ending])
    pure 0
  else
    let shown ← names.mapM fun name => do
      match environment.lookup name with
      | some value => do
        print (value ++ [ending])
        pure true
      | none => pure false
    pure (if shown.all id then 0 else 1)

end Work

/-! ## Formats -/

/-- Printing in a format: the arguments that are left, and whether one has been taken. -/
structure FormatRun where
  args : List Octets
  hasTaken : Bool := false

/-- Printing in a format is a part of what a tool does. -/
abbrev FormatWork := StateT FormatRun Work

namespace FormatWork

/-- Take the next argument. -/
def argument : FormatWork (Option Octets) := modifyGet fun p =>
  match p.args with
  | a :: rest => (some a, { p with args := rest, hasTaken := true })
  | [] => (none, p)

/-- Complain if an argument is not a number to its end, or is out of range. -/
def check (arg rest : Octets) (fits : Bool) : FormatWork Unit := do
  if !fits then Work.blame (quoteWord arg ++ ": Numerical result out of range".toList)
  else if !rest.isEmpty then
    Work.blame (quoteWord arg ++ (if rest.length = arg.length then ": expected a numeric value"
      else ": value not completely converted").toList)

/-- The number of a character after a quote. -/
def quoted? (arg : Octets) : FormatWork (Option Nat) := do
  match arg with
  | q :: c :: rest =>
    if q = '"' || q = '\'' then
      unless rest.isEmpty do
        Work.complain ("warning: ".toList ++ rest ++
          ": character(s) following character constant have been ignored".toList)
      pure (some c.toNat)
    else pure none
  | _ => pure none

/-- The next argument as a number between bounds. -/
def number (least greatest : Int) : FormatWork Int := do
  match ← argument with
  | none => pure 0
  | some arg =>
    match ← quoted? arg with
    | some n => pure n
    | none =>
      match takeSigned none arg with
      | none => do check arg arg true; pure 0
      | some (n, rest) =>
        let fits := (least ≤ n && n ≤ greatest) || (least = 0 && -numberCount < n && n ≤ greatest)
        check arg rest fits
        pure (if fits then n else if n < 0 then (if least = 0 then greatest else least) else greatest)

/-- The next argument as a fraction. -/
def real : FormatWork Real := do
  match ← argument with
  | none => pure (.fraction false 0 1)
  | some arg =>
    match ← quoted? arg with
    | some n => pure (.fraction false n 1)
    | none =>
      match takeReal arg with
      | none => do check arg arg true; pure (.fraction false 0 1)
      | some (x, rest) => do
        let (x, fits) := x.rounded .extended
        check arg rest fits
        pure x

/-- A width or a precision: digits, or the next argument where a star stands. -/
def size (cs : Octets) : FormatWork (Option Int × Octets) := do
  match cs with
  | '*' :: rest => do pure (some (← number (-2147483648) 2147483647), rest)
  | _ =>
    let digits := cs.takeWhile Char.isDigit
    pure (if digits.isEmpty then none else some (takeNumeral 10 0 digits).1, cs.drop digits.length)

/-- Print what goes into a slot. -/
def fill (d : Slot) : FormatWork Unit := do
  match d.letter with
  | 's' => Work.print (d.text ((← argument).getD []))
  | 'b' => do
    let (cs, ended) := let arg := (← argument).getD []; unescapeWith true (arg.length + 1) arg []
    Work.print (d.text cs)
    if ended then throw (← Work.status)
  | 'q' =>
    let arg := (← argument).getD []
    Work.print (d.text (if needsQuotes false arg then quoteName arg else arg))
  | 'c' => Work.print (d.pad [((← argument).getD []).headD '\x00'])
  | 'd' => Work.print (d.signed (← number leastNumber greatestNumber))
  | 'i' => Work.print (d.signed (← number leastNumber greatestNumber))
  | _ =>
    if "ouxX".toList.contains d.letter then
      Work.print (d.unsigned (((← number 0 (numberCount - 1)) % numberCount).toNat))
    else Work.print (d.real .extended (← real))

/-- Letters of slots. -/
def slotLetters : List Char := "sbqcdiouxXaAeEfFgG".toList

/-- The flags fit the letter. -/
def allows (d : Slot) (hasPrecision : Bool) (letter : Char) : Bool :=
  let isWhole := "di".toList.contains letter
  let isText := "sbqc".toList.contains letter
  !(d.alternate && (isWhole || isText || letter == 'u')) && !(d.zeros && isText) &&
    !(hasPrecision && letter == 'c') && !("bq".toList.contains letter && (hasPrecision || d.width ≠ 0 || d.left))

/-- Print an escape of the format; what follows it. -/
def formatEscape (cs : Octets) : FormatWork Octets := do
  match cs with
  | [] => do Work.print ['\\']; pure []
  | c :: rest =>
    match letterEscape? c with
    | some d => do Work.print [d]; pure rest
    | none =>
      if c = 'c' then throw (← Work.status)
      else if c = '"' || c = '\\' then do Work.print [c]; pure rest
      else if c = 'x' then
        match numbered 16 2 rest with
        | some (d, rest) => do Work.print [d]; pure rest
        | none => Work.fail "missing hexadecimal number in escape".toList
      else if isOctal c then
        match numbered 8 3 cs with
        | some (d, rest) => do Work.print [d]; pure rest
        | none => pure rest
      else do Work.print ['\\', c]; pure rest

/-- Print a format once. -/
def once : Nat → Octets → FormatWork Unit
  | 0, _ => pure ()
  | _, [] => pure ()
  | fuel + 1, '\\' :: rest => do once fuel (← formatEscape rest)
  | fuel + 1, '%' :: '%' :: rest => do
    Work.print ['%']
    once fuel rest
  | fuel + 1, '%' :: cs => do
    let (d, rest) := ({ letter := 's' } : Slot).flags cs
    let (width, rest) ← size rest
    let (precision, rest) ← match rest with
      | '.' :: rest => do
        let (n, rest) ← size rest
        pure (some (n.getD 0), rest)
      | rest => pure (none, rest)
    let w := width.getD 0
    let d := { d with
      left := d.left || w < 0, width := w.natAbs,
      precision := precision.bind fun n => if n < 0 then none else some n.toNat }
    let rest := rest.dropWhile fun c => "hlLjtz".toList.contains c
    let letter := rest.headD '\x00'
    if slotLetters.contains letter && allows d precision.isSome letter then
      fill { d with letter }
      once fuel (rest.drop 1)
    else
      let shown := '%' :: cs.take (cs.length - rest.length + 1)
      Work.fail (shown ++ ": invalid conversion specification".toList)
  | fuel + 1, c :: rest => do
    let plain := (c :: rest).takeWhile fun c => c != '\\' && c != '%'
    Work.print plain
    once fuel ((c :: rest).drop plain.length)

/-- Print a format as long as arguments are left, but at least once; `rounds` bounds how often. -/
def all (format : Octets) : Nat → FormatWork Unit
  | 0 => pure ()
  | rounds + 1 => do
    once (format.length + 1) format
    let p ← get
    if p.hasTaken && !p.args.isEmpty then all format rounds

end FormatWork

/-- Print arguments in a format. -/
def Work.printf (args : List Octets) : Work Nat := do
  let args := match args with
    | ['-', '-'] :: rest => rest
    | args => args
  match args with
  | [] => missingOperand
  | format :: args => do
    let (_, p) ← (FormatWork.all format (args.length + 1)).run { args }
    match p.args with
    | extra :: _ => complain ("warning: ignoring excess arguments, starting with ".toList ++ quoteWord extra)
    | [] => pure ()
    status

end Diagnostics.Sandbox
