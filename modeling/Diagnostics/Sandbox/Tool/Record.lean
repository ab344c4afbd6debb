import Diagnostics.Sandbox.Tool.Record.Run

/-!
# The tool for records

The tool that carries out a program for the records of its files. The program is its first word, or comes from files
that options name.
-/

namespace Diagnostics.Sandbox

/-- What the tool for records is told by its options. -/
structure RecordWish where
  paths : List Octets := []
  separator : Option Octets := none
  settings : List (Octets × Octets) := []

namespace Work

/-- How the tool for records is called. -/
def recordUsage : List String :=
  ["Usage: mawk [Options] [Program] [file ...]",
    "",
    "Program:",
    "    The -f option value is the name of a file containing program text.",
    "    If no -f option is given, a \"--\" ends option processing; the following",
    "    parameters are the program text.",
    "",
    "Options:",
    "    -f program-file  Program  text is read from file instead of from the",
    "                     command-line.  Multiple -f options are accepted.",
    "    -F value         sets the field separator, FS, to value.",
    "    -v var=value     assigns value to program variable var.",
    "    --               unambiguous end of options.",
    "",
    "    Implementation-specific options are prefixed with \"-W\".  They can be",
    "    abbreviated:",
    "",
    "    -W version       show version information and exit.",
    "    -W dump          show assembler-like listing of program and exit.",
    "    -W help          show this message and exit.",
    "    -W interactive   set unbuffered output, line-buffered input.",
    "    -W exec file     use file as program as well as last option.",
    "    -W posix_space   do not consider \"\\n\" a space.",
    "    -W random=number set initial random seed.",
    "    -W sprintf=number adjust size of sprintf buffer.",
    "    -W usage         show this message and exit."]

/-- Complain under the last name of the tool, and give up. -/
def failAsRecord (text : Octets) : Work α := do
  mutter (lastName (← get).name ++ ": ".toList ++ text ++ ['\n'])
  throw 2

/-- Read the options of the tool for records; what is left. -/
def readRecordOptions : Nat → List Octets → RecordWish → Work (RecordWish × List Octets)
  | 0, args, w => pure (w, args)
  | fuel + 1, args, w => do
    match args with
    | ['-', '-'] :: rest => pure (w, rest)
    | ('-' :: c :: cs) :: rest =>
      if !"fFvW".toList.contains c then failAsRecord ("not an option: -".toList ++ c :: cs)
      else
        let (value, rest) ← match cs, rest with
          | _ :: _, rest => pure (cs, rest)
          | [], value :: rest => pure (value, rest)
          | [], [] => failAsRecord ("option -".toList ++ c :: " lacks argument".toList)
        match c with
        | 'f' => readRecordOptions fuel rest { w with paths := w.paths ++ [value] }
        | 'F' => readRecordOptions fuel rest { w with separator := some value }
        | 'v' =>
          match RecordWork.settingOf? value with
          | some setting => readRecordOptions fuel rest { w with settings := w.settings ++ [setting] }
          | none => failAsRecord ("improper assignment: -v ".toList ++ value)
        | _ => readRecordOptions fuel rest w
    | args => pure (w, args)

/-- The program, from the files that are named or from the first word; what is left. -/
def recordProgram (w : RecordWish) (words : List Octets) : Work (RecordProgram × List Octets) := do
  let (name, text, rest) ← match w.paths, words with
    | [], text :: rest => pure ([], text, rest)
    | [], [] => do
      recordUsage.forM fun line => mutter (line.toList ++ ['\n'])
      throw 2
    | paths, rest => do
      let texts ← paths.mapM fun path => do
        match ← contentOf path with
        | .ok cs => pure (if cs.getLast? = some '\n' then cs else cs ++ ['\n'])
        | .error e => failAsRecord ("cannot open \"".toList ++ path ++ "\" (".toList ++ e.words.toList ++ [')'])
      pure (paths.headD [] ++ ": ".toList, texts.flatten, rest)
  match RecordProgram.ofText text with
  | .ok p => pure (p, rest)
  | .error f =>
    match f.line with
    | some line =>
      failAsRecord (name ++ "line ".toList ++ (toString line).toList ++ ": ".toList ++ f.text)
    | none => failAsRecord (name ++ f.text)

/-- Carry out a program for the records of files. -/
def awk (args : List Octets) : Work Nat := do
  let (w, words) ← readRecordOptions (args.length + 1) args {}
  let (program, words) ← recordProgram w words
  let t ← get
  let arguments := (lastName t.name :: words).zipIdx.foldl (fun (table : RecordTable) (word, i) =>
    table.set (toString i).toList (.read word)) {}
  let environment := t.environment.foldl (fun (table : RecordTable) (name, value) =>
    table.set name (.read value)) {}
  let start : List (Nat × RecordCell) :=
    [(RecordWork.recordCount, .value (.number 0.0)), (RecordWork.fileRecordCount, .value (.number 0.0)),
      (RecordWork.fieldSeparator, .value (.text [' '])), (RecordWork.outputSeparator, .value (.text [' '])),
      (RecordWork.outputEnd, .value (.text ['\n'])), (RecordWork.recordSeparator, .value (.text ['\n'])),
      (RecordWork.fileName, .value (.text [])), (RecordWork.keySeparator, .value (.text ['\x1c'])),
      (RecordWork.textFormat, .value (.text "%.6g".toList)), (RecordWork.outputFormat, .value (.text "%.6g".toList)),
      (RecordWork.matchStart, .value (.number 0.0)), (RecordWork.matchLength, .value (.number (-1.0))),
      (RecordWork.argumentCount, .value (RecordWork.count (words.length + 1))), (RecordWork.arguments, .table 0),
      (RecordWork.environment, .table 1)]
  let shared := start.foldl (fun (cells : Array RecordCell) (n, c) => cells.set! n c)
    (Array.replicate program.names.length RecordCell.unset)
  let state : RecordState :=
    { program, shared, tables := #[arguments, environment], ranges := Array.replicate program.rules.length false }
  let running : RecordWork Nat := do
    match w.separator with
    | some cs => RecordWork.setShared RecordWork.fieldSeparator (.text (RecordToken.unescaped (cs.length + 1) cs))
    | none => pure ()
    w.settings.forM fun (name, value) => RecordWork.setNamed name value
    RecordWork.toEnd
  let (status, _) ← StateT.run (ExceptT.run running) state
  pure (status.toOption.getD 2)

end Work

end Diagnostics.Sandbox
