import Diagnostics.Sandbox.Shell.Start
import Diagnostics.Sandbox.System
import Diagnostics.Sandbox.Tool.Block
import Diagnostics.Sandbox.Tool.Columns
import Diagnostics.Sandbox.Tool.Compare
import Diagnostics.Sandbox.Tool.Digest
import Diagnostics.Sandbox.Tool.Digits
import Diagnostics.Sandbox.Tool.Dump
import Diagnostics.Sandbox.Tool.Edit
import Diagnostics.Sandbox.Tool.Environment
import Diagnostics.Sandbox.Tool.Equal
import Diagnostics.Sandbox.Tool.Expr
import Diagnostics.Sandbox.Tool.Facts
import Diagnostics.Sandbox.Tool.Files
import Diagnostics.Sandbox.Tool.Letters
import Diagnostics.Sandbox.Tool.List
import Diagnostics.Sandbox.Tool.Numbering
import Diagnostics.Sandbox.Tool.Pass
import Diagnostics.Sandbox.Tool.Record
import Diagnostics.Sandbox.Tool.Search
import Diagnostics.Sandbox.Tool.Seek
import Diagnostics.Sandbox.Tool.Self
import Diagnostics.Sandbox.Tool.Sequence
import Diagnostics.Sandbox.Tool.Test

/-!
# All programs

The programs that there are, by their names.
-/

namespace Diagnostics.Sandbox

/-- A tool with the status of its failures. -/
structure ToolEntry where
  name : String
  work : List Octets → Work Nat
  failure : Nat := 1

/-- All tools. -/
def toolTable : List ToolEntry :=
  [⟨"[", Work.bracketTest, 2⟩, ⟨"arch", Work.arch, 1⟩, ⟨"awk", Work.awk, 2⟩, ⟨"base32", Work.base32, 1⟩,
    ⟨"base64", Work.base64, 1⟩, ⟨"basename", Work.basename, 1⟩, ⟨"basenc", Work.basenc, 1⟩, ⟨"cat", Work.cat, 1⟩,
    ⟨"chmod", Work.chmod, 1⟩, ⟨"cksum", Work.cksum, 1⟩, ⟨"cmp", Work.cmp, 2⟩, ⟨"comm", Work.comm, 1⟩,
    ⟨"cp", Work.cp, 1⟩, ⟨"cut", Work.cut, 1⟩, ⟨"dd", Work.dd, 1⟩, ⟨"dirname", Work.dirname, 1⟩,
    ⟨"echo", Work.echo, 1⟩, ⟨"env", Work.env, 125⟩, ⟨"expr", Work.expr, 2⟩, ⟨"false", fun _ => pure 1, 1⟩,
    ⟨"find", Work.find, 1⟩, ⟨"fold", Work.fold, 1⟩, ⟨"grep", Work.grep, 2⟩, ⟨"groups", Work.groupsOf, 1⟩,
    ⟨"head", Work.head, 1⟩, ⟨"hostname", Work.hostname, 1⟩, ⟨"id", Work.whoIs, 1⟩, ⟨"kill", Work.kill, 1⟩,
    ⟨"ln", Work.ln, 1⟩, ⟨"logname", Work.logname, 1⟩, ⟨"ls", Work.ls, 2⟩, ⟨"mawk", Work.awk, 2⟩,
    ⟨"md5sum", Work.digestTool .md5, 1⟩, ⟨"mkdir", Work.mkdir, 1⟩, ⟨"mkfifo", Work.mkfifo, 1⟩,
    ⟨"mktemp", Work.mktemp, 1⟩, ⟨"mv", Work.mv, 1⟩, ⟨"nice", Work.nice, 125⟩, ⟨"nl", Work.nl, 1⟩,
    ⟨"nohup", Work.nohup, 125⟩, ⟨"nproc", Work.nproc, 1⟩, ⟨"od", Work.od, 1⟩, ⟨"paste", Work.paste, 1⟩,
    ⟨"printenv", Work.printEnvironment, 2⟩, ⟨"printf", Work.printf, 1⟩, ⟨"pwd", Work.pwd, 1⟩,
    ⟨"readlink", Work.readlink, 1⟩, ⟨"realpath", Work.realpath, 1⟩, ⟨"rev", Work.rev, 1⟩, ⟨"rm", Work.rm, 1⟩,
    ⟨"rmdir", Work.rmdir, 1⟩, ⟨"sed", Work.sed, 1⟩, ⟨"seq", Work.seq, 1⟩, ⟨"setsid", Work.setsid, 1⟩,
    ⟨"sha1sum", Work.digestTool .sha1, 1⟩, ⟨"sha224sum", Work.digestTool .sha224, 1⟩,
    ⟨"sha256sum", Work.digestTool .sha256, 1⟩, ⟨"sha384sum", Work.digestTool .sha384, 1⟩,
    ⟨"sha512sum", Work.digestTool .sha512, 1⟩, ⟨"sleep", Work.sleep, 1⟩, ⟨"sort", Work.sort, 2⟩,
    ⟨"stat", Work.stat, 1⟩, ⟨"sum", Work.sum, 1⟩, ⟨"tac", Work.tac, 1⟩, ⟨"tail", Work.tail, 1⟩,
    ⟨"tee", Work.tee, 1⟩, ⟨"test", Work.test, 2⟩, ⟨"timeout", Work.timeout, 125⟩, ⟨"touch", Work.touch, 1⟩,
    ⟨"tr", Work.tr, 1⟩, ⟨"true", fun _ => pure 0, 1⟩, ⟨"truncate", Work.truncate, 1⟩, ⟨"tty", Work.tty, 2⟩,
    ⟨"uname", Work.uname, 1⟩, ⟨"uniq", Work.uniq, 1⟩, ⟨"unlink", Work.unlink, 1⟩, ⟨"users", Work.whoIsHere, 1⟩,
    ⟨"wc", Work.wc, 1⟩, ⟨"which", Work.which, 2⟩, ⟨"who", Work.whoIsHere, 1⟩, ⟨"whoami", Work.whoami, 1⟩,
    ⟨"xargs", Work.xargs, 1⟩, ⟨"yes", Work.yes, 1⟩]

/-- The program with a name. -/
def library : Library := fun name args environment =>
  if name = "dash" then shellProgram args environment
  else
    match toolTable.find? (·.name = name) with
    | some tool => Work.program tool.work tool.failure args environment
    | none => .exit 127

end Diagnostics.Sandbox
