import Diagnostics.Sandbox.Run
import Diagnostics.Session
import Diagnostics.Session.Scratch
import Diagnostics.Text.Quoted

/-!
# A session's surroundings in the sandbox

A studio makes and removes scratch files in a sandbox, runs compilers there, and keeps what there is to be
reported. The names of scratch files are numbered, so that no two are alike.
-/

namespace Diagnostics

/-- What a session reports besides its answers. -/
inductive SessionEvent
  | command (message : String)
  | retry (notice : RetryNotice)
  | leftBehind (file : Path) (cause : OsError)

namespace SessionEvent

/-- The event in words. -/
def message : SessionEvent → String
  | command message => String.ofList (message.toList.dropWhile Unicode.isSpace)
  | retry notice => notice.message
  | leftBehind _ cause => "Failed to remove scratch artifact: " ++ cause.message

end SessionEvent

/-- A sandbox, the number of scratch files made in it, and what has been reported, latest first. -/
structure Studio where
  sandbox : Sandbox
  created : Nat := 0
  events : List SessionEvent := []

namespace Studio

/-- Report an event. -/
def report (s : Studio) (e : SessionEvent) : Studio := { s with events := e :: s.events }

/-! ## Scratch files -/

/-- The number of letters after the beginning of a scratch file's name. -/
def stemLetters : Nat := 6

/-- A number written with so many small letters. -/
def letters (n : Nat) : Nat → List Char
  | 0 => []
  | count + 1 => letters (n / 26) count ++ [Char.ofNat ('a'.toNat + n % 26)]

/-- The stem of the scratch file with a number. -/
def stem (n : Nat) : String := "tmp" ++ String.ofList (letters n stemLetters)

/-- A directory, from the root if it is relative to where the sandbox is. -/
def absolute (s : Studio) (dir : Path) : Path :=
  if dir.isAbsolute then dir
  else Path.child ⟨Octets.text s.sandbox.here⟩ dir.text.toList

/-- Nobody but its owner may read or write a scratch file. -/
def scratchMode : Nat := 0o600

/-- Make a scratch file in a directory. -/
def create (dir : Path) (contents suffix : String) (s : Studio) : Except DiagnosticError Path × Studio :=
  let n := s.created + 1
  let file := (s.absolute dir).child (stem n ++ suffix).toList
  let node : Sandbox.Node :=
    { Sandbox.Node.document (Octets.ofText contents) with mode := scratchMode, changed := s.sandbox.system.clock }
  match s.sandbox.files.create s.sandbox.place (Octets.ofText file.text) node with
  | .ok (_, files) => (.ok file, { s with sandbox := s.sandbox.withFiles files, created := n })
  | .error e =>
    (.error (.scratch ("Failed to create scratch file in " ++ dir.text ++ ": " ++ e.message ++ " at path "
      ++ Quoted.text file.text)), s)

/-- Remove a file. One that is not there needs no removing; what cannot be removed is reported. -/
def remove (s : Studio) (file : Path) : Studio :=
  match s.sandbox.files.unlink s.sandbox.place (Octets.ofText file.text) s.sandbox.system.clock with
  | .ok files => { s with sandbox := s.sandbox.withFiles files }
  | .error e => if e.kindOf = .notFound then s else s.report (.leftBehind file e)

/-- Remove a scratch file and its byproducts. -/
def cleanup (file : Path) (s : Studio) : Studio := (byproductPaths file).foldl remove s

/-! ## The workshop -/

/-- Run a process and report its retries. -/
def run (r : ProcessRunner) (request : ProcessRequest) (s : Studio) :
    Except DiagnosticError ProcessOutput × Studio :=
  let (result, notices, sandbox) := s.sandbox.runProcess r request
  (result, { s with sandbox, events := (notices.map .retry).reverse ++ s.events })

/-- The directory for temporary files. -/
def systemTemp : Path := ⟨"/tmp"⟩

/-- What a session with a configuration works with; scratch files go to a directory of the system if the
configuration names none. -/
def workshop (config : DiagnoseConfig) (temp : Path) (log : String → Studio → Studio) : Workshop Studio where
  create := create (config.scratchDir.getD temp)
  cleanup := cleanup
  run := run { retry := config.retry, grace := config.readerGraceDuration }
  log := log

/-- Logging as an event. -/
def logEvent (message : String) (s : Studio) : Studio := s.report (.command message)

end Studio

end Diagnostics
