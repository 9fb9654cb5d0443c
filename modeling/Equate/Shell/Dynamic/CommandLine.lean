import Equate.Shell.Dynamic.Execution

/-!
# Starting scripts

A script is an argument, stands in a file or is the input. What it has printed is written
when it ends; an exception that nobody has caught is shown.
-/
namespace Equate.Shell.Dynamic

/-- Where a script stands. -/
inductive Origin where
  | argument (t : Octets)
  | file (path : Octets)
  /-- A tool by its name. -/
  | tool (name : Octets)
  | input

/-- What the arguments say. -/
structure Wanted where
  origin : Origin
  /-- What the script gets to know as its arguments, itself included. -/
  arguments : List Octets

/-- Why there is nothing to run. -/
inductive Refusal where
  | version
  | unknown (option : Char)
  | lacking (option : Char)

/-- The arguments, read. -/
def Wanted.read : List Octets → Except Refusal Wanted
  | [] => .ok ⟨.input, [[]]⟩
  | ['-'] :: rest => .ok ⟨.input, ['-'] :: rest⟩
  | ['-', '-'] :: rest =>
    match rest with
    | [] => .ok ⟨.input, [[]]⟩
    | path :: more => .ok ⟨.file path, path :: more⟩
  | ('-' :: letters) :: rest =>
    let option := letters.find? fun c => !("bBdEiIOqPRsSuvx".toList.contains c)
    match option with
    | none => read rest
    | some 'V' => .error .version
    | some '-' => if letters = lit "-version" then .error .version else .error (.unknown '-')
    | some c =>
      let inside := (letters.dropWhile (· ≠ c)).tail
      let value : Option (Octets × List Octets) := match inside, rest with
        | [], [] => none
        | [], v :: more => some (v, more)
        | inside, rest => some (inside, rest)
      match c, value with
      | 'c', some (t, more) => .ok ⟨.argument t, lit "-c" :: more⟩
      | 'm', some (name, more) => .ok ⟨.tool name, name :: more⟩
      | 'W', some _ => if inside.isEmpty then skipped rest else read rest
      | 'X', some _ => if inside.isEmpty then skipped rest else read rest
      | c, some _ => if ['c', 'm', 'W', 'X'].contains c then .error (.lacking c) else .error (.unknown c)
      | c, none => if ['c', 'm', 'W', 'X'].contains c then .error (.lacking c) else .error (.unknown c)
  | path :: rest => .ok ⟨.file path, path :: rest⟩
where
  /-- The arguments behind a value. -/
  skipped : List Octets → Except Refusal Wanted
    | [] => .ok ⟨.input, [[]]⟩
    | _ :: rest => read rest

/-- The state in the beginning. -/
def usualMachine (steps : Nat) : Machine :=
  { store := firstObjects.toArray
    held := []
    size := 0
    input := none
    function := "<module>"
    line := 1
    callers := []
    depth := 0
    steps
    handled := []
    modules := []
    settings := []
    answer := .none
    random := #[]
    drawn := 0
    atExit := [] }

/-- A script, ready to run. -/
structure Script where
  /-- The path of the script as it is shown. -/
  path : Text
  /-- Where its modules are looked for first. -/
  directory : Text
  text : Text
  /-- Its lines can be shown. -/
  isFile : Bool
  arguments : List Octets

/-- An exception that nobody has caught; the status. -/
def endedBy (w : Ways) (e : Value) (trace : List (String × Nat)) : Running Nat := do
  flush
  if ← isOfType e "SystemExit" then
    let code := match ← fieldsOf? e with
      | some (_, fields, _) => (fields.lookup "code").getD .none
      | none => .none
    match code with
    | .none => return 0
    | .bool b => return if b then 1 else 0
    | .int n => return (n.fmod 256).toNat
    | v =>
      complainWith ((← strOf w v) ++ ['\n'])
      return 1
  else
    complainWith (← shownTraceback w 10 e trace)
    if ← isOfType e "KeyboardInterrupt" then (throw (.killed 2) : Act Unit)
    return 1

/-- What is to be done in the end is done, the last first. -/
def runAtExit (w : Ways) : Nat → Running Unit
  | 0 => return
  | n + 1 => do
    match (← get).atExit with
    | [] => return
    | (f, plain, named) :: rest =>
      modify fun m => { m with atExit := rest }
      match ← attempt (w.call f plain named) with
      | .error (.raised e t) =>
        let _ ← endedBy w e t
      | .error s => throw s
      | .ok _ => pure ()
      runAtExit w n

/-- Something runs to its end; the status. -/
def toEnd (w : Ways) (body : Running Unit) : Running Nat := do
  let status ← match ← attempt body with
    | .ok _ => pure 0
    | .error (.raised e t) => endedBy w e t
    | .error s => throw s
  runAtExit w 1000
  flush
  return status

/-- A mistake in a script. -/
def shownMistake (s : Script) (m : Mistake) : Text :=
  let line := ((Text.splitOn '\n' s.text)[m.line - 1]?).getD []
  let shown := Numeral.trimmed line
  let kind : String := if m.indentation then "IndentationError: " else "SyntaxError: "
  "  File \"".toList ++ s.path ++ "\", line ".toList ++ Text.decimal m.line ++ ['\n'] ++
    (if shown = [] then [] else "    ".toList ++ shown ++ ['\n']) ++ kind.toList ++ m.words.toList ++ ['\n']

/-- How many steps a script can do. -/
def stepLimit : Act Nat := do return if (← process).deadline.isSome then 2000000 else 30000000

/-- A script by its text. -/
def runScript (run : Command → Act Unit) (s : Script) : Act Nat := do
  let w := ways run s.path (if s.isFile then (Text.splitOn '\n' s.text).toArray else #[]) wayLimit
  match checkedStatements s.text with
  | .error m =>
    let _ ← write 2 (encode (shownMistake s m))
    return 1
  | .ok statements =>
    let work : Running Nat := do
      putName 0 "__name__" (.text "__main__")
      if s.isFile then putName 0 "__file__" (.text s.path)
      let argv ← makeList (s.arguments.map fun a => .text (decode a))
      let path ← makeList ([s.directory, "/usr/local/lib/python311.zip", "/usr/local/lib/python3.11",
        "/usr/local/lib/python3.11/lib-dynload", "/usr/local/lib/python3.11/site-packages"].map Value.text)
      modify fun m => { m with settings := [("sys.argv", argv), ("sys.path", path)] }
      toEnd w (executeIn w 0 statements)
    let (result, _) ← StateT.run (ExceptT.run work) (usualMachine (← stepLimit))
    match result with
    | .ok status => return status
    | .error (.ended status) => return status
    | .error (.raised ..) => return 1

/-- The tool that lays out documents. -/
def layOut (run : Command → Act Unit) (operands : List Octets) : Act Nat := do
  let w := ways run "<tool>" #[] wayLimit
  let flags := operands.filter fun a => "--".toList.isPrefixOf a
  let paths := operands.filter fun a => !"--".toList.isPrefixOf a
  let has (flag : String) : Bool := flags.contains (lit flag)
  let work : Running Nat := do
    toEnd w do
      let source ← match paths with
        | path :: _ => openFile (.text (decode path)) ['r']
        | [] => pure (.object (streamPlace 0 false))
      match ← w.call (← w.member source "read") [] [] with
      | .text t =>
        let shown : Running Text := do
          let v ← readDocument w t ⟨[], []⟩
          let indent : List (String × Value) :=
            if has "--compact" then [("separators", .tuple [.text ",", .text ":"])]
            else if has "--no-indent" then []
            else if has "--tab" then [("indent", .text "\t")]
            else [("indent", .int 4)]
          writtenDocument w v ⟨[], indent ++ [("sort_keys", .bool (has "--sort-keys")),
            ("ensure_ascii", .bool (!has "--no-ensure-ascii"))]⟩
        let words ← catching ["ValueError"] shown fun e => do
          raise (← exception "SystemExit" [e] [("code", e)])
        match paths with
        | _ :: target :: _ =>
          let sink ← openFile (.text (decode target)) ['w']
          let _ ← w.call (← w.member sink "write") [.text (words ++ ['\n'])] []
        | _ => emit (encode (words ++ ['\n']))
      | _ => return
  let (result, _) ← StateT.run (ExceptT.run work) (usualMachine (← stepLimit))
  match result with
  | .ok status => return status
  | .error (.ended status) => return status
  | .error (.raised ..) => return 1

/-- How the program is used. -/
def usage : Octets := lit "usage: python3 [option] ... [-c cmd | -m mod | file | -] [arg] ...
Try \x60python -h' for more information.
"

/-- A script of a dynamic language, by the arguments. -/
def program (run : Command → Act Unit) : Utility := fun name arguments => do
  let say (t : Octets) (status : Nat) : Act Nat := do
    let _ ← write 2 t
    return status
  match Wanted.read arguments with
  | .error .version =>
    Utility.say (lit "Python 3.11.10\n")
    return 0
  | .error (.unknown c) => say (lit "Unknown option: -" ++ c :: '\n' :: usage) 2
  | .error (.lacking c) => say (lit "Argument expected for the -" ++ c :: lit " option\n" ++ usage) 2
  | .ok wanted =>
    let here := (← process).here
    let here : Text := if here = [] then ['/'] else here.flatMap fun n => '/' :: n
    match wanted.origin with
    | .argument t => runScript run ⟨"<string>", [], decode t, false, wanted.arguments⟩
    | .input => runScript run ⟨"<stdin>", [], decode ((← readAll 0).getD []), false, wanted.arguments⟩
    | .tool tool =>
      if tool = lit "json.tool" then layOut run wanted.arguments.tail
      else say (lit "/usr/local/bin/python3: No module named " ++ tool ++ ['\n']) 1
    | .file path =>
      let full := joinPaths here [decode path]
      match ← Utility.contentOf path with
      | .ok content =>
        runScript run ⟨full, (splitPath full).1, decode content, true, wanted.arguments⟩
      | .error .isDirectory =>
        say (lit "/usr/local/bin/python3: can't find '__main__' module in '" ++ encode full ++ lit "'\n") 1
      | .error obstacle =>
        let number := Text.decimal (obstacle.number?.getD 2)
        say (name ++ lit ": can't open file '" ++ encode full ++ lit "': [Errno " ++ number ++ lit "] " ++
          obstacle.words ++ ['\n']) 2

end Equate.Shell.Dynamic
