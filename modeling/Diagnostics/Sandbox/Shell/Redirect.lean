import Diagnostics.Sandbox.Shell.Expand
import Diagnostics.Sandbox.Shell.Job

/-!
# Redirections

Redirections of a command are carried out one after the other. What the descriptors led to before is kept, and
given back when the command has ended.
-/

namespace Diagnostics.Sandbox

/-- What an error is called where a program or a file to be read is not there, or no directory for a new file. -/
inductive Purpose
  | run
  | openIt
  | create

/-- An error in the words of the shell. -/
def Purpose.words (p : Purpose) (e : OsError) : Octets :=
  if e = .noSuchFile || e = .notADirectory then
    match p with
    | .run => "not found".toList
    | .openIt => "No such file".toList
    | .create => "Directory nonexistent".toList
  else e.words.toList

/-- A redirection whose words have been expanded. -/
inductive ReadyRedirection
  | file (descriptor : Nat) (use : FileUse) (name : Octets)
  | duplicate (descriptor : Nat) (source : Option Nat)
  | document (descriptor : Nat) (number : Nat)

namespace Act

/-- Expand the words of a redirection. -/
def readyRedirection (substitute : Command → Act Octets) : Redirection → Act ReadyRedirection
  | .file descriptor use name => do
    pure (.file descriptor use (← expandText substitute { home := true } name))
  | .duplicate descriptor target => do
    match ← expandText substitute { home := true } target with
    | ['-'] => pure (.duplicate descriptor none)
    | [c] =>
      if c.isDigit then pure (.duplicate descriptor (some (c.toNat - '0'.toNat)))
      else fail "Syntax error: Bad fd number"
    | _ => fail "Syntax error: Bad fd number"
  | .document descriptor number => pure (.document descriptor number)

/-- So much fits into the pipe of a document without a process that writes it. -/
def documentLimit : Nat := 4096

/-- A pipe that gives a text. -/
def pipeOf (text : Octets) : Act Nat := do
  let (source, sink) ← ask .pipe
  if text.length ≤ documentLimit then
    let _ ← write sink text
  else
    let _ ← startCopy false false (do
      let _ ← ask (.close source)
      let _ ← write sink text
      Task.finish 0)
  let _ ← ask (.close sink)
  pure source

/-- Open what a redirection leads to; nothing if its descriptor leads there already or is to be closed. -/
def openRedirection (substitute : Command → Act Octets) : ReadyRedirection → Act (Option Nat)
  | .file _ use name => do
    let opened (purpose : Purpose) (verb : String) (mode : OpenMode) : Act (Option Nat) := do
      match ← ask (.openFile name mode 0o666) with
      | .ok n => pure (some n)
      | .error e => failWith (("cannot " ++ verb ++ " ").toList ++ name ++ ": ".toList ++ purpose.words e)
    let fresh : OpenMode := { writes := true, creates := true, empties := true }
    let exists? : Act (Option Nat) :=
      failWith ("cannot create ".toList ++ name ++ ": File exists".toList)
    match use with
    | .read => opened .openIt "open" { reads := true }
    | .readWrite => opened .create "create" { reads := true, writes := true, creates := true }
    | .append => opened .create "create" { writes := true, creates := true, appends := true }
    | .overwrite => opened .create "create" fresh
    | .write =>
      if (← get).has 'C' then
        match ← ask (.look name true) with
        | .error _ => opened .create "create" { writes := true, creates := true, exclusive := true }
        | .ok facts =>
          match facts.content with
          | .regular _ => exists?
          | _ => opened .create "create" { writes := true }
      else opened .create "create" fresh
  | .duplicate _ source => pure source
  | .document _ number => do
    let w := ((← get).documents[number]?).getD []
    let text ← expandText substitute { quoted := true } w
    some <$> pipeOf text

/-- The descriptor of a redirection. -/
def descriptorOf : ReadyRedirection → Nat
  | .file descriptor .. => descriptor
  | .duplicate descriptor _ => descriptor
  | .document descriptor _ => descriptor

/-- What descriptors led to before: each with a copy, or nothing if it led nowhere. -/
abbrev SavedDescriptors := List (Nat × Option Nat)

/-- Descriptors from here on are copies. -/
def leastCopy : Nat := 10

/-- Keep what a descriptor leads to, unless it is kept already. -/
def saveDescriptor (descriptor : Nat) (saved : SavedDescriptors) : Act SavedDescriptors := do
  if saved.any (·.1 == descriptor) then pure saved
  else
    match ← ask (.duplicateFrom descriptor leastCopy) with
    | .ok copy => pure ((descriptor, some copy) :: saved)
    | .error _ => pure ((descriptor, none) :: saved)

/-- Give back what descriptors led to, or forget it. -/
def restoreDescriptors (forget : Bool) : SavedDescriptors → Act Unit
  | [] => pure ()
  | (descriptor, copy) :: rest => do
    match copy with
    | some copy => do
      unless forget do let _ ← ask (.duplicate copy descriptor)
      let _ ← ask (.close copy)
    | none => unless forget do let _ ← ask (.close descriptor)
    restoreDescriptors forget rest

/-- Carry out redirections. What has been kept so far is told even if one fails. -/
def redirectAll (substitute : Command → Act Octets) (keeps : Bool) :
    List ReadyRedirection → SavedDescriptors → Act (SavedDescriptors × Option Stop)
  | [], saved => pure (saved, none)
  | r :: rest, saved => do
    let n := descriptorOf r
    match ← (openRedirection substitute r).attempt with
    | .error stop => pure (saved, some stop)
    | .ok opened =>
      let isOwn := opened = some n
      let saved ←
        if !keeps then pure saved
        else if isOwn then
          match r with
          | .duplicate .. => pure saved
          | _ => pure (if saved.any (·.1 == n) then saved else (n, none) :: saved)
        else saveDescriptor n saved
      let problem ←
        match r, opened with
        | .duplicate .., none => do
          let _ ← ask (.close n)
          pure none
        | .duplicate .., some source =>
          if isOwn then pure none
          else
            match ← ask (.duplicate source n) with
            | .ok _ => pure none
            | .error e => do
              match ← (failWith (numeral source ++ ": ".toList ++ e.words.toList) : Act Unit).attempt with
              | .error stop => pure (some stop)
              | .ok _ => pure none
        | _, some source => do
          unless isOwn do
            let _ ← ask (.duplicate source n)
            let _ ← ask (.close source)
          pure none
        | _, none => pure none
      match problem with
      | some stop => pure (saved, some stop)
      | none => redirectAll substitute keeps rest saved

end Act

end Diagnostics.Sandbox
