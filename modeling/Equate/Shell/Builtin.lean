import Equate.Shell.Condition
import Equate.Shell.Flags
import Equate.Shell.Lookup
import Equate.Shell.Printed
import Equate.Shell.Running
import Equate.Solver.Program

/-!
# The commands that a shell itself knows

They work on the process of the shell. A mistake in a special one ends the shell.
-/
namespace Equate.Shell

/-- A command of the shell. -/
abbrev Builtin := List Octets → Act Nat

namespace Builtin

/-- The commands whose mistakes end the shell. -/
def specials : List Octets := Reading.specialNames

/-- The other commands. -/
def regulars : List Octets :=
  ["[", "alias", "bg", "cd", "chdir", "command", "echo", "false", "fg", "getopts", "hash", "jobs",
    "kill", "printf", "pwd", "read", "test", "true", "type", "ulimit", "umask", "unalias",
    "wait"].map lit

/-- A number that an argument has to be. -/
def number (t : Octets) : Act Nat := do
  let body := ((t.dropWhile isSpace).reverse.dropWhile isSpace).reverse
  match natural? body with
  | some n => if n < 2147483648 then return n else refuse (lit "Illegal number: " ++ t)
  | none => refuse (lit "Illegal number: " ++ t)

/-- The options of one argument by their letters, of which none but the known ones counts.
A letter in front of a colon takes what follows it; if nothing does, the letter comes back,
to take the next argument. -/
def optionLetters (known : List Char) : Octets → Act (List (Char × Octets) × Option Char)
  | [] => return ([], none)
  | c :: letters => do
    match (known.filter (· ≠ ':')).contains c, (known.dropWhile (· ≠ c)).drop 1 with
    | false, _ => refuse (lit "Illegal option -" ++ [c])
    | true, ':' :: _ => return if letters = [] then ([], some c) else ([(c, letters)], none)
    | true, _ =>
      let (more, waiting) ← optionLetters known letters
      return ((c, []) :: more, waiting)

/-- The options in front of arguments, with what they take, and the other arguments. -/
def options (known : String) : List Octets → Act (List (Char × Octets) × List Octets)
  | [] => return ([], [])
  | a :: rest => do
    match a with
    | ['-', '-'] => return ([], rest)
    | '-' :: c :: letters =>
      let (found, waiting) ← optionLetters known.toList (c :: letters)
      match waiting, rest with
      | none, rest =>
        let (more, rest) ← options known rest
        return (found ++ more, rest)
      | some c, [] => refuse (lit "No arg for -" ++ [c] ++ lit " option")
      | some c, value :: rest =>
        let (more, rest) ← options known rest
        return (found ++ (c, value) :: more, rest)
    | _ => return ([], a :: rest)

/-- One of some options is this letter. -/
def isGiven (c : Char) (found : List (Char × Octets)) : Bool := found.any fun o => o.1 == c

/-- A text in single quotes. -/
def quoted (t : Octets) : Octets :=
  ['\''] ++ t.flatMap (fun c => if c = '\'' then lit "'\"'\"'" else [c]) ++ ['\'']

/-- The parameters of a kind, as commands that would set them. -/
def listing (front : Octets) (kind : Variable → Bool) : Act Octets := do
  return (← process).parameters.toList.flatMap fun (name, v) =>
    if !kind v then []
    else
      match v.value with
      | some value => front ++ name ++ ['='] ++ quoted value ++ ['\n']
      | none => if front = [] then [] else front ++ name ++ ['\n']

/-- The end of loops, or of their rounds. -/
def leaving (stop : Nat → Stop) : Builtin := fun arguments => do
  let n ← match arguments with
    | [] => pure 1
    | a :: _ => do
      let n ← number a
      if n = 0 then refuse (lit "Illegal number: " ++ a) else pure n
  let loops := (← process).loops
  if loops = 0 then return 0
  else
    setStatus 0
    throw (stop (min n loops))

/-- The end of the shell or of a function, with a status of its own or the last one. -/
def ending (stop : Stop) : Builtin := fun arguments => do
  match arguments with
  | [] =>
    match (← process).exiting with
    | some status => setStatus status
    | none => pure ()
    throw stop
  | a :: _ =>
    setStatus (← number a)
    throw stop

/-- A script in the arguments. -/
def eval (run : Command → Act Unit) : Builtin := fun arguments => do
  if ← runText run (Text.joinWith [' '] arguments) then return (← process).status
  else return 0

/-- A script in a file. -/
def source (run : Command → Act Unit) : Builtin := fun arguments => do
  match (← options "" arguments).2 with
  | [] => return 0
  | name :: _ =>
    let files ← files
    let path ← if name.contains '/' then pure name else do
      let directories := Text.splitOn ':' ((← valueOf? (lit "PATH")).getD usualPath)
      match directories.findSome? fun d =>
          let path := if d = [] then name else d ++ ['/'] ++ name
          if (files.find (decode path)) matches .ok (.file ..) then some path else none with
      | some path => pure path
      | none => refuse (name ++ lit ": not found")
    match files.find (decode path) with
    | .error obstacle =>
      refuse (lit "cannot open " ++ path ++ lit ": " ++ match obstacle with
        | .missing => lit "No such file"
        | .notDirectory => lit "No such file"
        | obstacle => obstacle.words)
    | .ok _ =>
      let content := ((files.read (decode path)).toOption.getD [])
      restoring (fun before p => { p with caller := before.caller, line := before.line }) do
        setProcess fun p => { p with caller := some path }
        setStatus 0
        try
          let _ ← runText run (ofBytes content)
        catch
          | .returned => pure ()
          | stop => throw stop
      return (← process).status

/-- Marks parameters, which may get values first. -/
def marking (front : String) (kind : Variable → Bool) (mark : Variable → Variable) : Builtin :=
  fun arguments => do
    let (_, names) ← options "p" arguments
    if names.isEmpty then
      print (← listing (lit front ++ [' ']) kind)
      return 0
    else
      names.forM fun a => do
        let (name, value) := match Text.splitAt? '=' a with
          | some (name, value) => (name, some value)
          | none => (a, none)
        let name ← parameterName name
        match value with
        | some value => assign name value
        | none => pure ()
        setProcess fun p => { p with
          parameters := p.parameters.insert name (mark (p.parameters[name]?.getD ⟨none, false, false⟩)) }
      return 0

/-- Options and positional parameters. -/
def set : Builtin := fun arguments => do
  match arguments with
  | [] => print (← listing [] fun _ => true); return 0
  | _ =>
    let before := (← process).flags
    match Start.readFrom ⟨before, false, false, [], false, []⟩ arguments with
    | .error words => refuse words
    | .ok s =>
      print s.shown
      if s.flags.contains 'm' && !before.contains 'm' then complain withoutTerminal
      setProcess fun p => { p with flags := s.flags.filter (· ≠ 'm') }
      if !s.rest.isEmpty || s.cleared then
        setProcess fun p => { p with arguments := s.rest, scanned := 0 }
      return 0

/-- The positional parameters without the first ones. -/
def shift : Builtin := fun arguments => do
  let n ← match arguments with
    | [] => pure 1
    | a :: _ => number a
  if (← process).arguments.length < n then refuse (lit "can't shift that many")
  else
    setProcess fun p => { p with arguments := p.arguments.drop n }
    return 0

/-- Parameters or functions are forgotten. -/
def unset : Builtin := fun arguments => do
  let (flags, names) ← options "vf" arguments
  names.forM fun name => do
    if isGiven 'f' flags then
      setProcess fun p => { p with functions := p.functions.erase name }
    else
      let name ← parameterName name
      match (← process).parameters[name]? with
      | some ⟨_, _, true⟩ => refuse (name ++ lit ": is read only")
      | _ => setProcess fun p => { p with
          parameters := p.parameters.erase name
          tracked := if name = lit "PATH" then [] else p.tracked }
  return 0

/-- The names of the signals that have one, by their numbers. -/
def signalNames : List Octets :=
  Solver.signalNames ++ [lit "32", lit "33", lit "RTMIN"] ++
    (List.range 15).map (fun n => lit "RTMIN+" ++ Text.decimal (n + 1)) ++
    (List.range 14).map (fun n => lit "RTMAX-" ++ Text.decimal (14 - n)) ++ [lit "RTMAX"]

/-- The signal of a number or a name, from this number on. -/
def signal? (least : Nat) (t : Octets) : Option Nat :=
  match natural? t with
  | some n => if n ≤ 64 then some n else none
  | none =>
    let name := t.map Char.toUpper
    if least = 0 ∧ name = lit "EXIT" then some 0
    else (signalNames.idxOf? name).map (· + 1)

/-- The actions for signals. -/
def trap : Builtin := fun arguments => do
  let (_, arguments) ← options "" (match arguments with
    | ['-'] :: rest => ['-', '-'] :: ['-'] :: rest
    | rest => rest)
  match arguments with
  | [] =>
    let actions := (← process).actions.mergeSort fun a b => a.1 ≤ b.1
    print (actions.flatMap fun (n, action) =>
      let name := if n = 0 then lit "EXIT" else (signalNames[n - 1]?).getD (Text.decimal n)
      lit "trap -- " ++ quoted action ++ [' '] ++ name ++ ['\n'])
    return 0
  | first :: rest =>
    let (action, names) := if rest.isEmpty || (natural? first).isSome then (none, first :: rest)
      else (if first = ['-'] then none else some first, rest)
    apply action names
where
  /-- The action for each of some signals; a name without a signal ends this. -/
  apply (action : Option Octets) : List Octets → Act Nat
    | [] => return 0
    | name :: rest => do
      match signal? 0 name with
      | none =>
        let _ ← write 2 (lit "trap: " ++ name ++ lit ": bad trap\n")
        return 1
      | some n =>
        setProcess fun p =>
          let others := p.actions.filter fun a => a.1 != n
          { p with actions := match action with
              | some action => (n, action) :: others
              | none => others }
        apply action rest

/-- What to say about the use of the command for signals. -/
def killUsage : Octets :=
  lit "Usage: kill [-s sigspec | -signum | -sigspec] [pid | job]... or\nkill -l [exitstatus]"

/-- A job is ended by a signal. -/
def killJob (job : Job) (signal : Nat) : Act Unit := do
  if !isIgnored signal then
    modify fun s => { s with
      jobs := s.jobs.filter fun j => j.number != job.number
      ended := (job.number, .killed signal) :: s.ended }

/-- A signal for a shell or a job. -/
def send (run : Command → Act Unit) (signal : Nat) (target : Octets) : Act Bool := do
  let jobs := (← get).jobs
  let job ← match target with
    | '%' :: _ => pure jobs.getLast?
    | _ => do
      let n ← number target
      pure (jobs.find? fun j => j.number == n)
  match job with
  | some job => killJob job signal; return true
  | none =>
    let n := (natural? target).getD 0
    let p ← process
    let parent := ((← valueOf? (lit "PPID")).bind natural?).getD 0
    if n = p.number ∨ (n = parent ∧ 1 < parent) then
      Shell.signal run n signal
      return true
    else
      complain (lit "No such process\n")
      return false

/-- Signals, and their names. -/
def kill (run : Command → Act Unit) : Builtin := fun arguments => do
  let sending (signal : Nat) (targets : List Octets) : Act Nat := do
    if targets.isEmpty then refuse killUsage
    else
      let failed ← targets.foldlM (fun failed t => do return !(← send run signal t) || failed) false
      return if failed then 1 else 0
  match arguments with
  | [] => refuse killUsage
  | ['-', 'l'] :: rest =>
    match rest with
    | [] =>
      print (lit "0\n" ++ signalNames.flatMap fun n => n ++ ['\n'])
      return 0
    | t :: _ =>
      let n ← number t
      let n := if 128 < n then n - 128 else n
      match if n = 0 then none else signalNames[n - 1]? with
      | some name => print (name ++ ['\n']); return 0
      | none => refuse (lit "invalid signal number or exit status: " ++ t)
  | ['-', 's'] :: name :: rest =>
    match signal? 1 name with
    | some n => sending n (if rest.head? = some ['-', '-'] then rest.tail else rest)
    | none => refuse (lit "invalid signal number or name: " ++ name)
  | ['-', '-'] :: rest => sending 15 rest
  | ('-' :: c :: name) :: rest =>
    match signal? 1 (c :: name) with
    | some n => sending n rest
    | none =>
      if c = 's' then
        match signal? 1 name with
        | some n => sending n rest
        | none => refuse (lit "invalid signal number or name: " ++ name)
      else refuse (lit "Illegal option -" ++ [c])
  | rest => sending 15 rest

/-- Waits for jobs. -/
def wait (run : Command → Act Unit) : Builtin := fun arguments => do
  match (← options "" arguments).2 with
  | [] =>
    runJobs run jobLimit
    return 0
  | targets =>
    targets.foldlM (fun _ t => do
      let jobs := (← get).jobs
      let n ← match t with
        | '%' :: _ =>
          match (← process).lastJob with
          | some n => pure n
          | none => refuse (lit "No such job: " ++ t)
        | t => number t
      match jobs.find? fun j => j.number == n with
      | some job =>
        modify fun s => { s with jobs := s.jobs.filter fun j => j.number != n }
        runJob run job
        receivePending run
      | none => pure ()
      match (← get).ended.lookup n with
      | some finish => told finish
      | none => return 127) 0

/-- The working directory is changed. -/
def cd : Builtin := fun arguments => do
  let (_, operands) ← options "LP" (if arguments.head? = some ['-'] then ['-', '-'] :: arguments
    else arguments)
  let (path, shown) ← match operands with
    | [] => pure ((← valueOf? (lit "HOME")).getD [], false)
    | ['-'] :: _ => pure ((← valueOf? (lit "OLDPWD")).getD ((← valueOf? (lit "PWD")).getD []), true)
    | path :: _ => pure (path, false)
  let path := if path = [] then ['.'] else path
  let files ← files
  match files.place (decode path) with
  | .ok place =>
    if files.entry? place = some .directory then
      let now := encode ('/' :: Text.joinWith "/" place)
      let before := (← valueOf? (lit "PWD")).getD []
      setProcess fun p => { p with here := place }
      assign (lit "OLDPWD") before
      assign (lit "PWD") now
      if shown then print (now ++ ['\n'])
      return 0
    else refuse (lit "can't cd to " ++ path)
  | .error _ => refuse (lit "can't cd to " ++ path)

/-- Parameters that belong to the function that runs. A dash stands for the options. A bad
name with a value is found out only when the function ends. -/
def locals : Builtin := fun arguments => do
  match (← process).locals with
  | [] => refuse (lit "not in a function")
  | _ =>
    arguments.forM fun a => do
      let (name, value) := match Text.splitAt? '=' a with
        | some (name, value) => (name, some value)
        | none => (a, none)
      let remember (old : Option Variable) : Act Unit := setProcess fun p =>
        match p.locals with
        | saved :: outer => { p with locals := ((name, old) :: saved) :: outer }
        | [] => p
      if a = ['-'] then remember (some ⟨some (← process).flags, false, false⟩)
      else
        match value with
        | some value =>
          remember ((← process).parameters[name]?)
          assign name value
        | none =>
          let name ← parameterName name
          remember ((← process).parameters[name]?)
    return 0

/-- A line of an input, how long it is there, and whether it ends. A backslash takes the
meaning from the character behind it. -/
def line (raw : Bool) : Octets → List Mark × Nat × Bool
  | [] => ([], 0, false)
  | '\n' :: _ => ([], 1, true)
  | '\\' :: c :: rest =>
    if raw then
      if c = '\n' then ([⟨'\\', false⟩], 2, true)
      else
        let (marks, n, ends) := line raw rest
        (⟨'\\', false⟩ :: ⟨c, false⟩ :: marks, n + 2, ends)
    else
      let (marks, n, ends) := line raw rest
      (if c = '\n' then marks else ⟨c, true⟩ :: marks, n + 2, ends)
  | c :: rest =>
    let (marks, n, ends) := line raw rest
    (⟨c, false⟩ :: marks, n + 1, ends)

/-- The values of parameters that share a line: a field for each, and for the last one
all that is left, up to the blanks behind the last character that is not quoted. -/
def shares (separators : Octets) : Nat → List Mark → List Octets
  | 0, _ => []
  | n + 1, marks =>
    let isBlank (m : Mark) : Bool := !m.quoted && separators.contains m.char && isSpace m.char
    let separates (m : Mark) : Bool := !m.quoted && separators.contains m.char
    let marks := marks.dropWhile isBlank
    let field := marks.takeWhile fun m => !separates m
    let behind := (marks.drop field.length).dropWhile isBlank
    let behind := match behind with
      | m :: rest => if separates m ∧ !isBlank m then rest.dropWhile isBlank else m :: rest
      | [] => []
    if n = 0 then
      if behind.isEmpty then [field.map Mark.char]
      else
        let trailing := (marks.reverse.takeWhile fun m => m.quoted || isBlank m).reverse
        let cut := (trailing.dropWhile fun m => !isBlank m).length
        [(marks.take (marks.length - cut)).map Mark.char]
    else field.map Mark.char :: shares separators n behind

/-- Reads a line into parameters. -/
def read : Builtin := fun arguments => do
  let (found, names) ← options "p:r" arguments
  let raw := isGiven 'r' found
  if names.isEmpty then refuse (lit "arg count")
  match ← descriptor? 0 with
  | none => return 1
  | some index =>
    let (marks, n, ends) := line raw (← unread index)
    consume index n
    let marks := marks.filter fun m => m.char != '\x00'
    let values := shares (← separators) names.length marks
    (names.zip values).forM fun (name, value) => do
      assign (← parameterName name) value
    return if ends then 0 else 1

/-- The next option among arguments. -/
def getopts : Builtin := fun arguments => do
  match arguments with
  | wanted :: name :: rest =>
    let p ← process
    let words := if rest.isEmpty then p.arguments else rest
    let index := ((← valueOf? (lit "OPTIND")).bind natural?).getD 1
    let index := if words.length + 1 < index then 1 else index
    let silent := wanted.head? == some ':'
    let word := (words[index - 1]?).getD []
    let done (index : Nat) : Act Nat := do
      assign (lit "OPTIND") (Text.decimal index)
      setProcess fun p => { p with scanned := 0 }
      assign (← parameterName name) ['?']
      return 1
    if index = 0 ∨ words.length < index ∨ word.length < 2 ∨ word.head? ≠ some '-' then done index
    else if word = ['-', '-'] then done (index + 1)
    else
      let position := if p.scanned = 0 then 1 else p.scanned
      let c := (word[position]?).getD '?'
      let isLast := word.length ≤ position + 1
      let advance (index scanned : Nat) (found : Octets) (argument : Option Octets) : Act Nat := do
        assign (lit "OPTIND") (Text.decimal index)
        setProcess fun p => { p with scanned }
        match argument with
        | some t => assign (lit "OPTARG") t
        | none => setProcess fun p => { p with parameters := p.parameters.erase (lit "OPTARG") }
        assign (← parameterName name) found
        return 0
      let after := if isLast then index + 1 else index
      let scanned := if isLast then 0 else position + 1
      let spec := (wanted.dropWhile (· ≠ c))
      if c = ':' ∨ spec = [] then
        if silent then advance after scanned ['?'] (some [c])
        else
          let _ ← write 2 (lit "Illegal option -" ++ [c, '\n'])
          advance after scanned ['?'] none
      else if (spec.drop 1).head? = some ':' then
        if !isLast then advance (index + 1) 0 [c] (some (word.drop (position + 1)))
        else
          match words[index]? with
          | some argument => advance (index + 2) 0 [c] (some argument)
          | none =>
            if silent then advance (index + 1) 0 [':'] (some [c])
            else
              let _ ← write 2 (lit "No arg for -" ++ [c] ++ lit " option\n")
              advance (index + 1) 0 ['?'] none
      else advance after scanned [c] (some [])
  | _ => refuse (lit "Usage: getopts optstring var [arg...]")

/-- What a name means as a command, in words or as it is used. -/
def meaning (verbose : Bool) (name : Octets) : Act Nat := do
  let p ← process
  let tell (words : String) (plain : Octets) : Act Nat := do
    print (if verbose then name ++ [' '] ++ lit words ++ ['\n'] else plain ++ ['\n'])
    return 0
  if Reading.keywords.contains name then tell "is a shell keyword" name
  else if let some value := p.aliases.lookup name then
    print (if verbose then name ++ lit " is an alias for " ++ value ++ ['\n']
      else lit "alias " ++ name ++ ['='] ++ quoted value ++ ['\n'])
    return 0
  else if specials.contains name then tell "is a special shell builtin" name
  else if p.functions.contains name then tell "is a shell function" name
  else if regulars.contains name then tell "is a shell builtin" name
  else
    let files ← files
    let found ← if name.contains '/' then
        pure ((files.find (decode name)).map fun _ => name)
      else pathOfProgram name
    match found with
    | .ok path =>
      let link := if (p.tracked.lookup name).isSome then lit " is a tracked alias for " else lit " is "
      print (if verbose then name ++ link ++ path ++ ['\n'] else path ++ ['\n'])
      return 0
    | .error _ =>
      if verbose then print (name ++ lit ": not found\n")
      return 127

/-- The command that runs others, where it is to tell what they are. -/
def command : Builtin := fun arguments => do
  let (found, names) ← options "pvV" arguments
  match names with
  | name :: _ =>
    if isGiven 'v' found || isGiven 'V' found then meaning (isGiven 'V' found) name else return 0
  | [] => return 0

/-- The programs that have been found by their names. -/
def hash : Builtin := fun arguments => do
  let (found, names) ← options "r" arguments
  if isGiven 'r' found then
    setProcess fun p => { p with tracked := [] }
    return 0
  else if names.isEmpty then
    let bucket (name : Octets) : Nat :=
      ((name.headD '\x00').toNat * 16 + name.foldl (fun n c => n + c.toNat) 0) % 31
    let rows := (← process).tracked.mergeSort fun a b => bucket a.1 ≤ bucket b.1
    print (rows.flatMap fun row => row.2 ++ ['\n'])
    return 0
  else
    names.foldlM (fun status name => do
      if name.contains '/' || specials.contains name || regulars.contains name then return status
      else
        match ← pathOfProgram name with
        | .ok _ => return status
        | .error _ =>
          complain (name ++ lit ": not found")
          return 1) 0

/-- What names mean as commands. -/
def meanings : Builtin := fun names =>
  names.foldlM (fun status name => do
    let s ← meaning true name
    return if s = 0 then status else s) 0

/-- The limits of resources, none of which is kept. -/
def ulimit : Builtin := fun arguments => do
  let (found, values) ← options "HSatfdscmlpnvwr" arguments
  match values with
  | [] =>
    print (if isGiven 'c' found then lit "0\n" else lit "unlimited\n")
    return 0
  | [value] =>
    if value = lit "unlimited" || (natural? value).isSome then return 0
    else refuse (lit "bad number")
  | _ => refuse (lit "too many arguments")

/-- What new files are not allowed, which does not change. -/
def umask : Builtin := fun arguments => do
  let (found, values) ← options "S" arguments
  if values.isEmpty then
    print (if isGiven 'S' found then lit "u=rwx,g=rx,o=rx\n" else lit "0022\n")
  return 0

/-- Words that stand for others where a command begins. -/
def aliases : Builtin := fun arguments => do
  let shown (name value : Octets) : Octets := name ++ ['='] ++ quoted value ++ ['\n']
  if arguments.isEmpty then
    print ((← process).aliases.flatMap fun (name, value) => shown name value)
    return 0
  else
    arguments.foldlM (fun status a => do
      match Text.splitAt? '=' a with
      | some (name, value) =>
        setProcess fun p => { p with
          aliases := (name, value) :: p.aliases.filter fun other => other.1 != name }
        return status
      | none =>
        match (← process).aliases.lookup a with
        | some value => print (shown a value); return status
        | none =>
          let _ ← write 2 (lit "alias: " ++ a ++ lit " not found\n")
          return 1) 0

/-- Such words are forgotten. -/
def unalias : Builtin := fun arguments => do
  let (found, arguments) ← options "a" arguments
  if isGiven 'a' found then
    setProcess fun p => { p with aliases := [] }
    return 0
  else
    arguments.foldlM (fun status a => do
      if ((← process).aliases.lookup a).isNone then
        let _ ← write 2 (lit "unalias: " ++ a ++ lit " not found\n")
        return 1
      else
        setProcess fun p => { p with aliases := p.aliases.filter fun other => other.1 != a }
        return status) 0

/-- The arguments, printed. -/
def echo : Builtin := fun arguments => do
  print (Shell.echo arguments)
  return 0

/-- A format with its arguments. -/
def printf : Builtin := fun arguments => do
  let (_, arguments) ← options "" arguments
  match arguments with
  | [] => refuse (lit "usage: printf format [arg ...]")
  | format :: rest =>
    let p := Printout.of format rest
    p.remarks.forM complain
    match p.refusal with
    | some words =>
      complain words
      print p.output
      return 2
    | none =>
      print p.output
      return if p.remarks.isEmpty then 0 else 1

/-- A condition, which a bracket may end. -/
def test (bracketed : Bool) : Builtin := fun arguments => do
  if bracketed && (arguments.getLast?.bind List.head?) != some ']' then refuse (lit "missing ]")
  else
    let arguments := if bracketed then arguments.dropLast else arguments
    return if ← Condition.holds arguments then 0 else 1

end Builtin

/-- What the shell does by itself for a name. -/
def builtin? (run : Command → Act Unit) (name : Octets) : Option Builtin :=
  match String.ofList name with
  | ":" => some fun _ => return 0
  | "." => some (Builtin.source run)
  | "[" => some (Builtin.test true)
  | "alias" => some Builtin.aliases
  | "bg" => some fun _ => refuse (lit "No current job")
  | "break" => some (Builtin.leaving .broken)
  | "cd" => some Builtin.cd
  | "chdir" => some Builtin.cd
  | "command" => some Builtin.command
  | "continue" => some (Builtin.leaving .continued)
  | "echo" => some Builtin.echo
  | "eval" => some (Builtin.eval run)
  | "exit" => some (Builtin.ending .exited)
  | "export" => some (Builtin.marking "export" Variable.exported fun v => { v with exported := true })
  | "false" => some fun _ => return 1
  | "fg" => some fun _ => refuse (lit "No current job")
  | "getopts" => some Builtin.getopts
  | "hash" => some Builtin.hash
  | "jobs" => some fun arguments => do
    let _ ← Builtin.options "lp" arguments
    return 0
  | "kill" => some (Builtin.kill run)
  | "local" => some Builtin.locals
  | "printf" => some Builtin.printf
  | "pwd" => some fun arguments => do
    let _ ← Builtin.options "LP" arguments
    print ((encode ('/' :: Text.joinWith "/" (← process).here)) ++ ['\n'])
    return 0
  | "read" => some Builtin.read
  | "readonly" => some (Builtin.marking "readonly" Variable.fixed fun v => { v with fixed := true })
  | "return" => some (Builtin.ending .returned)
  | "set" => some Builtin.set
  | "shift" => some Builtin.shift
  | "test" => some (Builtin.test false)
  | "times" => some fun _ => do
    print (lit "0m0.000000s 0m0.000000s\n0m0.000000s 0m0.000000s\n")
    return 0
  | "trap" => some Builtin.trap
  | "true" => some fun _ => return 0
  | "type" => some Builtin.meanings
  | "ulimit" => some Builtin.ulimit
  | "umask" => some Builtin.umask
  | "unalias" => some Builtin.unalias
  | "unset" => some Builtin.unset
  | "wait" => some (Builtin.wait run)
  | _ => none

end Equate.Shell
