import Diagnostics.Cli.Answer

/-!
# The program

Reads the command line, the environment and the files that the command line names, and prints the answer.
Compilers are run in a sandbox, which knows small programs only and in which the present directory and the
directory for scratch files are there.
-/

namespace Diagnostics

/-- The error that the system gave. -/
def OsError.ofIO : IO.Error → OsError
  | .alreadyExists _ n _ => .number n.toNat
  | .otherError n _ => .number n.toNat
  | .resourceBusy n _ => .number n.toNat
  | .resourceVanished n _ => .number n.toNat
  | .unsupportedOperation n _ => .number n.toNat
  | .hardwareFault n _ => .number n.toNat
  | .unsatisfiedConstraints n _ => .number n.toNat
  | .illegalOperation n _ => .number n.toNat
  | .protocolError n _ => .number n.toNat
  | .timeExpired n _ => .number n.toNat
  | .interrupted _ n _ => .number n.toNat
  | .noFileOrDirectory _ n _ => .number n.toNat
  | .invalidArgument _ n _ => .number n.toNat
  | .permissionDenied _ n _ => .number n.toNat
  | .resourceExhausted _ n _ => .number n.toNat
  | .inappropriateType _ n _ => .number n.toNat
  | .noSuchThing _ n _ => .number n.toNat
  | .unexpectedEof => .kind .unexpectedEnd
  | .userError text => .described .other text

/-- What reading a file gave. -/
def readBytes (path : Path) : IO (Except OsError (List UInt8)) := do
  try
    pure (.ok (← IO.FS.readBinFile path.text).toList)
  catch e => pure (.error (OsError.ofIO e))

/-- The environment, as far as it matters. -/
def readEnvironment : IO Environment := do
  let found ← DiagnoseConfig.overrides.mapM fun (name, _) => do pure (name, ← IO.getEnv name)
  pure (found.filterMap fun (name, value) => value.map (name, ·))

/-- The tree with a directory at a path, and directories above it. -/
def withDirectory (t : Sandbox.FileTree) (path : String) : Sandbox.FileTree :=
  t.put ((Path.split (Octets.ofText path)).filter (· ≠ [])) Sandbox.Node.folder

/-- Answer the command line and give back the status. -/
def answerCommandLine (words : List String) : IO UInt32 := do
  let env ← readEnvironment
  let here := toString (← IO.currentDir)
  let paths := match Cli.Invocation.parse words with
    | .ok i => i.files
    | .error _ => []
  let files ← paths.mapM fun path => do pure (path, ← readBytes path)
  let scratch := (env.lookup "DIAGNOSE_SCRATCH_DIR").getD ""
  let tree := withDirectory (withDirectory Sandbox.FileTree.standard here) scratch
  let studio : Studio := { sandbox := { system := { files := tree }, here := Octets.ofText here, environment := env } }
  let read : Cli.Reader := fun path => (files.lookup path).getD (.error .noSuchFile)
  let a := Cli.answer words read env studio
  (← IO.getStdout).putStr a.text
  (← IO.getStdout).flush
  match a.failure with
  | some failure => (← IO.getStderr).putStrLn failure
  | none => pure ()
  pure a.status.toUInt32

end Diagnostics

/-- The program. -/
def main (words : List String) : IO UInt32 := Diagnostics.answerCommandLine words
