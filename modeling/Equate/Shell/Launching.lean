import Equate.Shell.Lookup
import Equate.Shell.Running
import Equate.Shell.Utility.Numbers
import Equate.Shell.Utility.Tree
import Equate.Solver.Program

/-!
# Programs that start others

A program is started by its name with arguments, in a process of its own, by way of a
command that takes its place. If it is killed by a signal, so is the program that has
started it.
-/
namespace Equate.Shell

/-- A word that stands for itself. -/
def fixedWord (t : Octets) : Word := [.single t]

/-- A program in the place of a subshell. -/
def launch (run : Command → Act Unit) (words : List Octets) : Act Finish :=
  subshell run do
    setProcess fun p => { p with functions := Std.ExtTreeMap.empty, flags := [] }
    run (.simple 1 [] ((lit "exec" :: words).map fixedWord) [])

/-- The status of a program. Whoever waits for one that is killed by a signal is killed by
it too. -/
def statusOf (finish : Finish) : Act Nat := do
  match finish with
  | .exited status => return status
  | .killed signal => throw (.killed signal)

/-- A program that runs another one, if operands are left, after some preparation. -/
def passingOn (run : Command → Act Unit) (name : Octets) (operands : List Octets)
    (prepare : Act Unit) : Act Nat := do
  match operands with
  | [] => Utility.misuse name (lit "missing operand") 125
  | program :: _ =>
    let finish ← subshell run do
      prepare
      match ← pathOfProgram program with
      | .error obstacle =>
        Utility.blame name (Utility.quote program ++ lit ": " ++ obstacle.words)
        setStatus (if obstacle = .missing then 127 else 126)
      | .ok _ => setStatus (← statusOf (← launch run operands))
    statusOf finish

/-- A pair of a name and a value, with an equals sign between them. -/
def setting? (t : Octets) : Option (Octets × Octets) := (Text.splitAt? '=' t)

/-- The words of a text that is to be split, with quotes and backslashes. -/
def splitWords : Option Octets → Octets → List Octets
  | none, [] => []
  | some w, [] => [w.reverse]
  | current, '\\' :: c :: rest => splitWords (some (c :: current.getD [])) rest
  | current, c :: rest =>
    if isSpace c then
      match current with
      | some w => w.reverse :: splitWords none rest
      | none => splitWords none rest
    else if c = '"' ∨ c = '\'' then splitWords (some (current.getD [])) rest
    else splitWords (some (c :: current.getD [])) rest

/-- The exported parameters, or a program with some more of them. -/
def env (run : Command → Act Unit) : Utility := fun name arguments => do
  let arguments := match arguments with
    | ('-' :: 'S' :: c :: text) :: rest => splitWords none (c :: text) ++ rest
    | ['-', 'S'] :: text :: rest => splitWords none text ++ rest
    | rest => rest
  let arguments := match arguments with
    | ['-'] :: rest => ['-', 'i'] :: rest
    | rest => rest
  Utility.withOptions "+i0u:C:v" [("ignore-environment", 'i'), ("null", '0'), ("unset", 'u'),
      ("chdir", 'C'), ("debug", 'v')] name arguments 125 fun g => do
    let settings := g.operands.takeWhile fun a => a.contains '='
    let rest := g.operands.drop settings.length
    let prepare : Act Unit := do
      if g.has 'i' then
        setProcess fun p => { p with
          parameters := p.parameters.map fun _ v => { v with exported := false } }
      (g.values 'u').forM fun n =>
        setProcess fun p => { p with parameters := p.parameters.erase n }
      (settings.filterMap setting?).forM fun (n, value) =>
        setProcess fun p => { p with parameters := p.parameters.insert n ⟨some value, true, false⟩ }
    match (g.value? 'C').map fun directory => (directory, rest) with
    | some (_, []) => Utility.misuse name (lit "must specify command with --chdir (-C)") 125
    | some (directory, _) =>
      let files ← files
      match files.place (decode directory) with
      | .error obstacle =>
        Utility.blame name (lit "cannot change directory to " ++ Utility.quote directory ++ lit ": " ++
          obstacle.words)
        return 125
      | .ok place =>
        if files.entry? place = some .directory then
          passingOn run name rest do
            prepare
            setProcess fun p => { p with here := place }
        else
          Utility.blame name (lit "cannot change directory to " ++ Utility.quote directory ++
            lit ": Not a directory")
          return 125
    | none =>
      if rest.isEmpty then
        let before ← process
        prepare
        let p ← process
        setProcess fun _ => before
        let ending := if g.has '0' then '\x00' else '\n'
        Utility.say (p.parameters.toList.flatMap fun (n, v) =>
          match v.value with
          | some value => if v.exported then n ++ ['='] ++ value ++ [ending] else []
          | none => [])
        return 0
      else passingOn run name rest prepare

/-- The values of exported parameters. -/
def printenv (run : Command → Act Unit) : Utility := fun name arguments =>
  Utility.withOptions "+0" [("null", '0')] name arguments 2 fun g => do
    let ending := if g.has '0' then '\x00' else '\n'
    match g.operands with
    | [] => env run name (if g.has '0' then [['-', '0']] else [])
    | wanted =>
      let p ← process
      let missing ← wanted.foldlM (fun missing n => do
        let exported := p.parameters[n]?.filter Variable.exported
        match exported.bind Variable.value with
        | some value => Utility.say (value ++ [ending]); return missing
        | none => return true) false
      return if missing then 1 else 0

/-! ## Words from the input -/

/-- Why the words of an input cannot be told. -/
inductive Unsplit where
  | openQuote (quote : Char)

/-- The words of an input with the number of the line that each of them ends in. Quotation
marks and backslashes hold; blanks at the end of a line continue it. -/
structure Splitting where
  words : List (Octets × Nat)
  current : Option Octets
  line : Nat
  /-- The quotation mark that is open. -/
  quote : Option Char
  /-- The character before was a blank. -/
  afterBlank : Bool

/-- One word more. -/
def Splitting.close (s : Splitting) : Splitting :=
  match s.current with
  | some w => { s with words := (w.reverse, s.line) :: s.words, current := none }
  | none => s

/-- The words of an input, between blanks or, in whole lines, between line ends. -/
def Splitting.read (lines : Bool) : Splitting → Octets → Except Unsplit Splitting
  | s, [] =>
    match s.quote with
    | some quote => .error (.openQuote quote)
    | none => .ok s.close
  | s, [c] =>
    match s.quote with
    | some quote => if c = quote then .ok { s with quote := none, current := some (s.current.getD []) }.close
        else .error (.openQuote quote)
    | none =>
      if isSpace c then .ok s.close
      else if c = '"' ∨ c = '\'' then .error (.openQuote c)
      else if c = '\\' then .ok s.close
      else .ok { s with current := some (c :: s.current.getD []) }.close
  | s, c :: d :: rest =>
    match s.quote with
    | some quote =>
      if c = quote then read lines { s with quote := none, current := some (s.current.getD []) } (d :: rest)
      else if c = '\n' then .error (.openQuote quote)
      else read lines { s with current := some (c :: s.current.getD []) } (d :: rest)
    | none =>
      if c = '\\' then read lines { s with current := some (d :: s.current.getD []), afterBlank := false } rest
      else if c = '"' ∨ c = '\'' then
        read lines { s with quote := some c, current := some (s.current.getD []), afterBlank := false }
          (d :: rest)
      else if c = '\n' then
        let isBlankLine := s.words.all (fun w => w.2 < s.line) && s.current.isNone
        let line := if s.afterBlank || isBlankLine then s.line else s.line + 1
        read lines { s.close with line, afterBlank := false } (d :: rest)
      else if isSpace c then
        if lines then
          read lines (if s.current.isSome then { s with current := some (c :: s.current.getD []) } else s)
            (d :: rest)
        else read lines { s.close with afterBlank := true } (d :: rest)
      else read lines { s with current := some (c :: s.current.getD []), afterBlank := false } (d :: rest)

/-- Lists cut into lists of so many items. -/
def chunks {α : Type} (n : Nat) : Nat → List α → List (List α)
  | 0, _ => []
  | _, [] => []
  | fuel + 1, items => items.take n :: chunks n fuel (items.drop n)

/-- Neighbours with keys in the same group, where a group has so many keys. -/
def groupsByLine (count : Nat) (items : List (Octets × Nat)) : List (List Octets) :=
  let keys := (items.map (·.2)).eraseDups
  (chunks (max count 1) keys.length keys).map fun group =>
    (items.filter fun i => group.contains i.2).map (·.1)

/-- A text with another one in place of a mark. -/
def filledIn (mark value : Octets) : Nat → Octets → Octets
  | 0, t => t
  | _, [] => []
  | fuel + 1, c :: rest =>
    if mark ≠ [] ∧ mark.isPrefixOf (c :: rest) then
      value ++ filledIn mark value fuel ((c :: rest).drop mark.length)
    else c :: filledIn mark value fuel rest

/-- The words for the options of `xargs`. -/
def xargsWords : List (String × Char) :=
  [("null", '0'), ("arg-file", 'a'), ("delimiter", 'd'), ("eof", 'e'), ("replace", 'i'),
    ("max-lines", 'l'), ("max-args", 'n'), ("max-procs", 'P'), ("interactive", 'p'),
    ("no-run-if-empty", 'r'), ("max-chars", 's'), ("verbose", 't'), ("exit", 'x'),
    ("open-tty", 'o')]

/-- A delimiter as it is written. -/
def delimiterOf (t : Octets) : Char :=
  match t with
  | ['\\', 'n'] => '\n'
  | ['\\', 't'] => '\t'
  | ['\\', '0'] => '\x00'
  | ['\\', '\\'] => '\\'
  | c :: _ => c
  | [] => '\x00'

/-- The command lines of an input. -/
def commandLines (g : Utility.Given) (command : List Octets) (input : Octets) :
    Except Octets (List (List Octets)) := do
  let mark := match g.value? 'I', g.value? 'i' with
    | some mark, _ => some mark
    | none, some mark => some (if mark = [] then ['{', '}'] else mark)
    | none, none => none
  let delimiter := if g.has '0' then some '\x00' else (g.value? 'd').map delimiterOf
  let items : List (Octets × Nat) ← match delimiter with
    | some d =>
      let parts := Text.splitOn d input
      let parts := if parts.getLast? = some [] then parts.dropLast else parts
      pure (parts.zipIdx)
    | none =>
      match Splitting.read mark.isSome ⟨[], none, 0, none, false⟩ input with
      | .ok s => pure s.words.reverse
      | .error (.openQuote quote) => .error (lit "unmatched " ++
          lit (if quote = '"' then "double" else "single") ++
          lit " quote; by default quotes are special to xargs unless you use the -0 option")
  let items := match g.value? 'E' with
    | some ending => if ending = [] then items else items.takeWhile fun i => i.1 ≠ ending
    | none => items
  match mark with
  | some mark =>
    return items.map fun (line, _) =>
      command.map fun a => filledIn mark line (a.length + 1) a
  | none =>
    let lines := match g.value? 'L', g.value? 'l' with
      | some n, _ => natural? n
      | none, some n => if n = [] then some 1 else natural? n
      | none, none => none
    let groups : List (List Octets) := match (g.value? 'n').bind natural?, lines with
      | some n, _ => chunks (max n 1) items.length (items.map Prod.fst)
      | none, some n => groupsByLine n items
      | none, none => if items.isEmpty then [] else [items.map Prod.fst]
    return if groups.isEmpty && !g.has 'r' then [command]
      else groups.map fun words => command ++ words

/-- Programs one after the other, with nothing to read. One that cannot be started, or says
so with its status, is the last one. -/
def startAll (run : Command → Act Unit) (name : Octets) (loud : Bool) :
    List (List Octets) → Nat → Act Nat
  | [], status => return status
  | line :: rest, status => do
    if loud then
      let _ ← write 2 (Text.joinWith [' '] line ++ ['\n'])
    let program := line.headD []
    match ← pathOfProgram program with
    | .error obstacle =>
      Utility.blame name (program ++ lit ": " ++ obstacle.words)
      return if obstacle = .missing then 127 else 126
    | .ok _ =>
      let index ← addOpened ⟨.void, 0, false⟩
      let finish ← restoring (fun before p => { p with descriptors := before.descriptors }) do
        setDescriptor 0 (some index)
        launch run line
      match finish with
      | .exited 0 => startAll run name loud rest status
      | .exited 255 =>
        Utility.blame name (program ++ lit ": exited with status 255; aborting")
        return 124
      | .exited _ => startAll run name loud rest 123
      | .killed signal =>
        Utility.blame name (program ++ lit ": terminated by signal " ++ Text.decimal signal)
        return 125

/-- A program with the words of the input behind its arguments. -/
def xargs (run : Command → Act Unit) : Utility := fun name arguments =>
  Utility.withOptions "+0a:d:e::E:i::I:l::L:n:P:prs:txo" xargsWords name arguments 1 fun g => do
    let command := if g.operands.isEmpty then [lit "echo"] else g.operands
    let content ← match g.value? 'a' with
      | some path => Utility.contentOf path
      | none => Utility.contentOf ['-']
    match content with
    | .error obstacle =>
      if g.has 'a' then
        Utility.blame name (lit "Cannot open input file '" ++ (g.value? 'a').getD [] ++ lit "': " ++
          obstacle.words)
      return 1
    | .ok input =>
      match commandLines g command input with
      | .error mistake =>
        Utility.blame name mistake
        return 1
      | .ok lines => startAll run name (g.has 't') lines 0

/-! ## Time -/

/-- A duration in nanoseconds. Seconds, minutes, hours and days are known by a letter. -/
def duration? (t : Octets) : Option Nat := do
  if (["inf", "infinity"].map lit).contains (t.map Char.toLower) then return 1000000000000000000
  let (t, seconds) := match t.getLast? with
    | some 's' => (t.dropLast, 1)
    | some 'm' => (t.dropLast, 60)
    | some 'h' => (t.dropLast, 3600)
    | some 'd' => (t.dropLast, 86400)
    | _ => (t, 1)
  let w ← Utility.written? t
  if w.digits < 0 then none
  else
    let scaled := w.digits.toNat * seconds * 1000000000
    return (scaled + Nat.pow 10 w.places - 1) / Nat.pow 10 w.places

/-- Time passes, up to the deadline at most. -/
def pass (duration : Nat) : Act Unit := do
  let clock := (← get).clock + duration
  match (← process).deadline with
  | some deadline =>
    if deadline < clock then
      modify fun s => { s with clock := deadline }
      throw .expired
    else modify fun s => { s with clock }
  | none => modify fun s => { s with clock }

/-- Waits; the jobs in the background come to their end. -/
def sleep (run : Command → Act Unit) : Utility := fun name arguments =>
  Utility.withOptions "" [] name arguments 1 fun g => do
    match g.operands.filter fun a => (duration? a).isNone with
    | [] =>
      if g.operands.isEmpty then Utility.misuse name (lit "missing operand") 1
      else
        runJobs run jobLimit
        pass ((g.operands.filterMap duration?).foldl (· + ·) 0)
        return 0
    | wrong =>
      wrong.forM fun a => Utility.blame name (lit "invalid time interval " ++ Utility.quote a)
      Utility.misuse name [] 1

/-- A signal by its number or its name. -/
def signalNumber? (t : Octets) : Option Nat :=
  match natural? t with
  | some n => if n ≤ 64 then some n else none
  | none =>
    let name := t.map Char.toUpper
    let name := if (lit "SIG").isPrefixOf name then name.drop 3 else name
    (Solver.signalNames.idxOf? name).map (· + 1)

/-- A program that has so much time. The time of others that have less counts for it too. -/
def limited (run : Command → Act Unit) (duration : Nat) (words : List Octets) :
    Act (Option Finish) := do
  let before ← process
  let own := (← get).clock + duration
  let deadline := if duration = 0 then before.deadline
    else match before.deadline with
      | some outer => some (min outer own)
      | none => some own
  try
    setProcess fun p => { p with deadline }
    let finish ← launch run words
    setProcess fun p => { p with deadline := before.deadline }
    modify fun s => { s with
      jobs := s.jobs.map fun j => { j with process := { j.process with deadline := before.deadline } } }
    return some finish
  catch
    | .expired =>
      setProcess fun _ => before
      match before.deadline with
      | some outer => if outer ≤ own then throw .expired else return none
      | none => return none
    | stop => throw stop

/-- A program that is stopped when its time is over. -/
def timeout (run : Command → Act Unit) : Utility := fun name arguments =>
  Utility.withOptions "+k:s:vφπ" [("kill-after", 'k'), ("signal", 's'), ("verbose", 'v'),
      ("foreground", 'φ'), ("preserve-status", 'π')] name arguments 125 fun g => do
    match (g.value? 's').elim (some 15) signalNumber?, g.operands with
    | none, _ => Utility.misuse name (Utility.quote ((g.value? 's').getD []) ++ lit ": invalid signal") 125
    | _, [] => Utility.misuse name (lit "missing operand") 125
    | some signal, limit :: words =>
      match (g.value? 'k').elim (some 0) duration?, duration? limit with
      | none, _ =>
        Utility.misuse name (lit "invalid time interval " ++ Utility.quote ((g.value? 'k').getD [])) 125
      | _, none => Utility.misuse name (lit "invalid time interval " ++ Utility.quote limit) 125
      | some _, some duration =>
        match words with
        | [] => Utility.misuse name (lit "missing operand") 125
        | program :: _ =>
          match ← pathOfProgram program with
          | .error obstacle =>
            Utility.blame name (lit "failed to run command " ++ Utility.quote program ++ lit ": " ++
              obstacle.words)
            return if obstacle = .missing then 127 else 126
          | .ok _ =>
            match ← limited run duration words with
            | some finish => statusOf finish
            | none =>
              if g.has 'v' then
                let signalName := (Solver.signalName? signal).getD (Text.decimal signal)
                Utility.blame name (lit "sending signal " ++ signalName ++ lit " to command " ++
                  Utility.quote program)
              if signal = 9 ∧ !g.has 'φ' then throw (.killed 9)
              else return if g.has 'π' then 128 + signal else if signal = 9 then 137 else 124

/-- A program that is less important than others. -/
def nice (run : Command → Act Unit) : Utility := fun name arguments => do
  let arguments := match arguments with
    | ('-' :: c :: digits) :: rest =>
      if (c = '-' ∧ digits ≠ [] ∧ digits.all Char.isDigit) ∨ (c :: digits).all Char.isDigit then
        lit "-n" :: (c :: digits) :: rest
      else arguments
    | _ => arguments
  Utility.withOptions "+n:" [("adjustment", 'n')] name arguments 125 fun g => do
    match (g.value? 'n').elim (some 0) integer? with
    | none =>
      Utility.misuse name (lit "invalid adjustment " ++ Utility.quote ((g.value? 'n').getD [])) 125
    | some _ =>
      if g.operands.isEmpty then
        if g.has 'n' then Utility.misuse name (lit "a command must be given with an adjustment") 125
        else
          Utility.say (lit "0\n")
          return 0
      else passingOn run name g.operands (pure ())

/-- Programs that only pass others on. -/
def passing (letters : String) (words : List (String × Char)) (run : Command → Act Unit) : Utility :=
  fun name arguments =>
    Utility.withOptions letters words name arguments 125 fun g =>
      passingOn run name g.operands (pure ())

end Equate.Shell
