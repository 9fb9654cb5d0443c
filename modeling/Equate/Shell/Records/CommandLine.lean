import Equate.Shell.Records.Evaluation
import Equate.Shell.Records.Parser

/-!
# Starting programs for records

The program is an argument or stands in files. Variables can be set before it starts.
-/
namespace Equate.Shell.Records

/-- What the arguments say. -/
structure Wanted where
  separator : Option Octets
  settings : List Octets
  files : List Octets
  rest : List Octets

/-- The arguments of the program, or what is wrong with them. -/
def Wanted.read : Nat → Wanted → List Octets → Except Octets Wanted
  | 0, w, rest => .ok { w with rest }
  | _, w, [] => .ok w
  | fuel + 1, w, a :: rest =>
    let value (letter : Char) (inside : Octets) (use : Octets → Wanted) : Except Octets Wanted :=
      match inside, rest with
      | [], [] => .error (lit "option -" ++ [letter] ++ lit " lacks argument")
      | [], v :: rest => read fuel (use v) rest
      | inside, rest => read fuel (use inside) rest
    match a with
    | ['-', '-'] => .ok { w with rest }
    | '-' :: 'F' :: inside => value 'F' inside fun v => { w with separator := some v }
    | '-' :: 'v' :: inside => value 'v' inside fun v => { w with settings := w.settings ++ [v] }
    | '-' :: 'f' :: inside => value 'f' inside fun v => { w with files := w.files ++ [v] }
    | '-' :: 'W' :: inside => value 'W' inside fun _ => w
    | '-' :: c :: more =>
      if c = '-' then .error (lit "not an option: " ++ a)
      else .error (lit "not an option: -" ++ c :: more)
    | a => .ok { w with rest := a :: rest }

/-- The variables in the beginning. -/
def usualVariables (exported : List (Octets × Octets)) (arguments : List Octets) : Machine :=
  let texts := [("FS", " "), ("OFS", " "), ("ORS", "\n"), ("RS", "\n"), ("SUBSEP", "\x1c"),
    ("CONVFMT", "%.6g"), ("OFMT", "%.6g"), ("FILENAME", "")]
  let numbers : List (String × Float) := [("NR", 0), ("FNR", 0), ("RSTART", 0), ("RLENGTH", -1),
    ("ARGC", Float.ofNat arguments.length)]
  let wholes := texts.foldl (fun (vs : Std.ExtTreeMap Octets Slot compare) (name, t) =>
    vs.insert (lit name) (.value (.text (lit t)))) Std.ExtTreeMap.empty
  let wholes := numbers.foldl (fun vs (name, x) => vs.insert (lit name) (.value (.number x))) wholes
  let wholes := (wholes.insert (lit "ARGV") (.table 0)).insert (lit "ENVIRON") (.table 1)
  let given := (arguments.zipIdx).foldl (fun (t : Table) (a, i) =>
    t.set (.number i) (.input a)) .empty
  let environment := exported.foldl (fun (t : Table) (name, value) =>
    t.set (.text name) (.input value)) .empty
  let tables := ((Std.ExtTreeMap.empty : Std.ExtTreeMap Nat Table compare).insert 0 given).insert 1
    environment
  { wholes
    owns := #[]
    tables
    made := 2
    record := []
    fields := none
    separator := [' ']
    outgoing := []
    incoming := []
    current := none
    argument := 1
    anyFile := false
    ranges := []
    held := []
    size := 0
    seed := 0
    random := 1
    patterns := Std.ExtTreeMap.empty
    status := 0 }

/-- The text of the program, with the name of its file. -/
def programText (name : Octets) (w : Wanted) : Act (Except Octets (Octets × Octets × List Octets)) := do
  match w.files with
  | [] =>
    match w.rest with
    | [] => return .error []
    | t :: rest => return .ok ([], t, rest)
  | files =>
    let rec go : List Octets → Act (Except Octets Octets)
      | [] => return .ok []
      | path :: rest => do
        match ← Utility.contentOf (if path = lit "/dev/stdin" then ['-'] else path) with
        | .error obstacle =>
          return .error (name ++ lit ": cannot open \"" ++ path ++ lit "\" (" ++ obstacle.words ++
            lit ")\n")
        | .ok t =>
          match ← go rest with
          | .ok more => return .ok (t ++ more)
          | .error words => return .error words
    match ← go files with
    | .ok t => return .ok (files.headD [] ++ lit ": ", t, w.rest)
    | .error words => return .error words

/-- How the program is used. -/
def usage : Octets := lit "Usage: mawk [Options] [Program] [file ...]

Program:
    The -f option value is the name of a file containing program text.
    If no -f option is given, a \"--\" ends option processing; the following
    parameters are the program text.

Options:
    -f program-file  Program  text is read from file instead of from the
                     command-line.  Multiple -f options are accepted.
    -F value         sets the field separator, FS, to value.
    -v var=value     assigns value to program variable var.
    --               unambiguous end of options.

    Implementation-specific options are prefixed with \"-W\".  They can be
    abbreviated:

    -W version       show version information and exit.
    -W compat        pre-POSIX 2001.
    -W dump          show assembler-like listing of program and exit.
    -W help          show this message and exit.
    -W interactive   set unbuffered output, line-buffered input.
    -W exec file     use file as program as well as last option.
    -W posix         stricter POSIX checking.
    -W random=number set initial random seed.
    -W sprintf=number adjust size of sprintf buffer.
    -W usage         show this message and exit.
"

/-- A program for records, by its arguments. -/
def program (run : Command → Act Unit) : Utility := fun name arguments => do
  let refusing (words : Octets) : Act Nat := do
    let _ ← write 2 (name ++ lit ": " ++ words ++ ['\n'])
    return 2
  match Wanted.read (arguments.length + 1) ⟨none, [], [], []⟩ arguments with
  | .error words => refusing words
  | .ok w =>
    match w.settings.find? fun t => (assignment? t).isNone with
    | some t => refusing (lit "improper assignment: -v " ++ t)
    | none =>
      match ← programText name w with
      | .error [] =>
        if arguments.isEmpty then
          let _ ← write 2 usage
        return 0
      | .error words =>
        let _ ← write 2 words
        return 2
      | .ok (front, text, operands) =>
        match Program.ofText text with
        | .error mistake =>
          let place := if (lit "unexpected character").isPrefixOf mistake.words then
              front ++ Text.decimal mistake.line ++ lit ": "
            else front ++ lit "line " ++ Text.decimal mistake.line ++ lit ": "
          if mistake.words = lit "extra '\x7d'" ∧ mistake.atEnd then
            let _ ← write 2 (name ++ lit ": " ++ place ++ mistake.words ++ ['\n'])
            refusing (place ++ lit "syntax error at or near end of line")
          else refusing (place ++ mistake.words)
        | .ok p =>
          let exported := (← process).parameters.toList.filterMap fun (n, v) =>
            if v.exported then v.value.map fun value => (n, value) else none
          let o : Setting := ⟨run, name, p.functions⟩
          let work : Working Unit := do
            match w.separator with
            | some t =>
              let t := Token.unescape (t.length + 1) t
              setFromOutside (lit "FS") (if t = ['t'] then ['t'] else t)
            | none => pure ()
            (w.settings.filterMap assignment?).forM fun (n, value) => setFromOutside n value
            runProgram o p
          let (_, m) ← StateT.run (ExceptT.run work) (usualVariables exported (name :: operands))
          return m.status

end Equate.Shell.Records
