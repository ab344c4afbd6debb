import Diagnostics.Sandbox.Tool.Edit.Reader
import Diagnostics.Sandbox.Tool.Edit.Run

/-!
# The editor for streams

The tool that carries out a script for the lines of its files. The script comes from its options, in their order, or is
its first word.
-/

namespace Diagnostics.Sandbox

/-- A part of a script, and the file that it comes from, if it does. -/
structure ScriptPart where
  file : Option Octets
  text : Octets

namespace ScriptPart

/-- The parts as one text. -/
def joined (parts : List ScriptPart) : Octets := ['\n'].intercalate (parts.map (·.text))

/-- What is wrong with a script, with the part and the place in it where that shows. `expressions` is the number of
parts before that come from no file. -/
def blame (f : EditFault) (expressions place : Nat) : List ScriptPart → Octets
  | [] => f.text
  | p :: rest =>
    if !rest.isEmpty && p.text.length < place then
      blame f (if p.file.isNone then expressions + 1 else expressions) (place - p.text.length - 1) rest
    else
      match p.file with
      | none =>
        "-e expression #".toList ++ (toString (expressions + 1)).toList ++ ", char ".toList ++
          (toString place).toList ++ ": ".toList ++ f.text
      | some file =>
        let line := ((p.text.take place).filter (· == '\n')).length + 1
        "file ".toList ++ file ++ " line ".toList ++ (toString line).toList ++ ": ".toList ++ f.text

end ScriptPart

namespace Work

/-- How the editor is called. -/
def editUsage : List String :=
  ["",
    "  -n, --quiet, --silent",
    "                 suppress automatic printing of pattern space",
    "      --debug",
    "                 annotate program execution",
    "  -e script, --expression=script",
    "                 add the script to the commands to be executed",
    "  -f script-file, --file=script-file",
    "                 add the contents of script-file to the commands to be executed",
    "  --follow-symlinks",
    "                 follow symlinks when processing in place",
    "  -i[SUFFIX], --in-place[=SUFFIX]",
    "                 edit files in place (makes backup if SUFFIX supplied)",
    "  -l N, --line-length=N",
    "                 specify the desired line-wrap length for the `l' command",
    "  --posix",
    "                 disable all GNU extensions.",
    "  -E, -r, --regexp-extended",
    "                 use extended regular expressions in the script",
    "                 (for portability use POSIX -E).",
    "  -s, --separate",
    "                 consider files as separate rather than as a single,",
    "                 continuous long stream.",
    "      --sandbox",
    "                 operate in sandbox mode (disable e/r/w commands).",
    "  -u, --unbuffered",
    "                 load minimal amounts of data from the input files and flush",
    "                 the output buffers more often",
    "  -z, --null-data",
    "                 separate lines by NUL characters",
    "      --help     display this help and exit",
    "      --version  output version information and exit",
    "",
    "If no -e, --expression, -f, or --file option is given, then the first",
    "non-option argument is taken as the sed script to interpret.  All",
    "remaining arguments are names of input files; if no input files are",
    "specified, then the standard input is read."]

/-- The document of the system that says where to read more about the editor. -/
def editPages : Octets := "/usr/share/doc/sed/pages".toList

/-- How the editor is called, under a name. -/
def editHelp (name : Octets) : Octets :=
  "Usage: ".toList ++ name ++ " [OPTION]... \x7bscript-only-if-no-other-script\x7d [input-file]...\n".toList ++
    editUsage.flatMap fun l => l.toList ++ ['\n']

/-- Options of the editor. -/
def editRules : List OptionRule :=
  [⟨some 'n', "quiet", .nothing⟩, ⟨none, "silent", .nothing⟩, ⟨none, "debug", .nothing⟩,
    ⟨some 'e', "expression", .word⟩, ⟨some 'f', "file", .word⟩, ⟨none, "follow-symlinks", .nothing⟩,
    ⟨some 'i', "in-place", .maybeWord⟩, ⟨some 'l', "line-length", .word⟩, ⟨none, "posix", .nothing⟩,
    ⟨some 'E', "regexp-extended", .nothing⟩, ⟨some 'r', "r", .nothing⟩, ⟨some 's', "separate", .nothing⟩,
    ⟨none, "sandbox", .nothing⟩, ⟨some 'u', "unbuffered", .nothing⟩, ⟨some 'z', "null-data", .nothing⟩,
    ⟨some 'b', "binary", .nothing⟩, ⟨none, "zero-terminated", .nothing⟩, ⟨none, "help", .nothing⟩]

/-- The part of a script that an option gives. -/
def scriptPart (option : String × Option Octets) : Work (List ScriptPart) := do
  let value := option.2.getD []
  if option.1 == "expression" then pure [⟨none, value⟩]
  else if option.1 == "file" then
    match ← contentOf value with
    | .ok cs => pure [⟨some value, bare cs⟩]
    | .error e => do
      complain ("couldn't open file ".toList ++ value ++ ": ".toList ++ e.words.toList)
      throw EditWork.panicStatus
  else pure []

/-- Edit the lines of files. -/
def sed (args : List Octets) : Work Nat := do
  modify fun t => { t with advice := editHelp t.name, pages := editPages }
  let (settings, words) ← readOptions editRules args
  if settings.has "help" then
    print (editHelp (← get).name ++ (← document editPages))
    pure 0
  else
    let given := (← settings.mapM scriptPart).flatten
    let (parts, paths) ← match given, words with
      | [], [] => pointToHelp
      | [], script :: paths => pure ([⟨none, script⟩], paths)
      | given, paths => pure (given, paths)
    let extended := settings.has "regexp-extended" || settings.has "r"
    match EditScript.ofText extended (ScriptPart.joined parts) with
    | .error f => fail (ScriptPart.blame f 0 (f.place.getD 0) parts)
    | .ok script =>
      match script.missingLabel? with
      | some label => do
        complain ("can't find label for jump to `".toList ++ label ++ ['\''])
        throw EditWork.panicStatus
      | none =>
        let backup := if settings.has "in-place" then some ((settings.last? "in-place").getD []) else none
        if backup.isSome && paths.isEmpty then do
          complain "no input files".toList
          throw EditWork.panicStatus
        else
          let width := match settings.last? "line-length" with
            | some cs => (takeNumeral 10 0 cs).1
            | none => 70
          let state : EditState :=
            { script, quiet := script.quiet || settings.has "quiet" || settings.has "silent"
              separate := backup.isSome || settings.has "separate"
              delimiter := if settings.has "null-data" || settings.has "zero-terminated" then '\x00' else '\n'
              width, backup, ranges := script.freshRanges, paths := if paths.isEmpty then [['-']] else paths }
          let (status, _) ← StateT.run EditWork.whole state
          pure status

end Work

end Diagnostics.Sandbox
