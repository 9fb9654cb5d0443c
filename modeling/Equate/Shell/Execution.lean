import Equate.Shell.Builtin
import Equate.Shell.Programs
import Equate.Shell.State

/-!
# Running commands

One step runs a command by a way to run the commands inside it; how deep commands can
stand in each other is bounded. A failing redirection ends a shell only in front of a
special command. A loop that has run through all its rounds is taken for endless, and the
shell is killed.
-/
namespace Equate.Shell

/-- Something that may fail without ending the shell. -/
def tested {α : Type} (x : Act α) : Act α :=
  restoring (fun before p => { p with tested := before.tested }) do
    setProcess fun p => { p with tested := true }
    x

/-- A command that has failed ends the shell, if that is what the options say. -/
def checkFailure : Act Unit := do
  let p ← process
  if p.status != 0 && p.flags.contains 'e' && !p.tested then throw .exited

/-! ## Redirections -/

/-- What stands in the way of opening a file, in words. -/
def obstacleWords (absent : String) : Obstacle → Octets
  | .missing => lit absent
  | .notDirectory => lit absent
  | obstacle => obstacle.words

/-- An open file along a path, or the complaint about it. -/
def openPath (mode : Mode) (path : Octets) : Act (Except Octets Nat) := do
  match ← openAt mode (!(← hasFlag 'C')) path with
  | .ok index => return .ok index
  | .error obstacle =>
    let front := if mode = .read ∨ obstacle = .noDevice then lit "cannot open " else lit "cannot create "
    let absent := if mode = .read then "No such file" else "Directory nonexistent"
    return .error (front ++ path ++ lit ": " ++ obstacleWords absent obstacle)

/-- A redirection with its target as a text. -/
structure Leading where
  descriptor : Nat
  mode : Mode
  target : Octets
  document : Nat

/-- The targets of redirections. -/
def targets (output : List Command → Act Octets) (redirections : List Redirection) :
    Act (List Leading) :=
  redirections.mapM fun | .mk n mode target document => do
    if mode = .document then return ⟨n, mode, [], document⟩
    else
      let t ← wordText output .first target
      if mode = .duplicate then
        match t with
        | [c] =>
          if c != '-' && !c.isDigit then refuse (lit "Syntax error: Bad fd number")
        | _ => refuse (lit "Syntax error: Bad fd number")
      return ⟨n, mode, t, document⟩

/-- Leads a stream from a document. A mistake in the document counts as a stream that
cannot be led. -/
def redirectDocument (output : List Command → Act Octets) (n document : Nat) : Act Bool := do
  let w := ((← get).documents.lookup document).getD []
  try
    let index ← addOpened ⟨.buffer (.holding (← wordText output .none w)), 0, false⟩
    setDescriptor n (some index)
    return true
  catch
    | .failed => return false
    | stop => throw stop

/-- Leads a stream to or from somewhere; the complaint if that cannot be done. -/
def redirect (l : Leading) : Act (Option Octets) := do
  match l.mode, l.target with
  | .duplicate, ['-'] => setDescriptor l.descriptor none; return none
  | .duplicate, t =>
    match ← (natural? t).elim (pure none) descriptor? with
    | some index => setDescriptor l.descriptor (some index); return none
    | none => return some (t ++ lit ": Bad file descriptor")
  | mode, path =>
    match ← openPath mode path with
    | .ok index => setDescriptor l.descriptor (some index); return none
    | .error words => return some words

/-- Redirections in their order, up to the first that fails; whether none does. -/
def leadAll (output : List Command → Act Octets) : List Leading → Act Bool
  | [] => return true
  | l :: rest => do
    if l.mode = .document then
      if ← redirectDocument output l.descriptor l.document then leadAll output rest
      else return false
    else
      match ← redirect l with
      | none => leadAll output rest
      | some words =>
        complain words
        setStatus 2
        return false

/-- All redirections. Their targets are worked out before any of them is made. -/
def redirectAll (output : List Command → Act Octets) (redirections : List Redirection) :
    Act Bool := do
  leadAll output (← targets output redirections)

/-- The descriptors that have been redirected are as before afterwards. -/
def withDescriptors {α : Type} (redirections : List Redirection) (x : Act α) : Act α :=
  let own := redirections.map fun | .mk n .. => n
  restoring (fun before p => { p with
    descriptors := before.descriptors.filter (fun d => own.contains d.1) ++
      p.descriptors.filter (fun d => !own.contains d.1) }) x

/-! ## Simple commands -/

/-- The words of a command, where those behind some names are assignments. -/
def expandWords (output : List Command → Act Octets) (words : List Word) : Act (List Octets) := do
  let declares := (words.head?.bind bare?).any fun name =>
    (["export", "readonly", "local"].map lit).contains name
  words.foldlM (fun all w => do
    match if declares then Reading.assignment? w else none with
    | some (name, value) => return all ++ [name ++ '=' :: (← wordText output .all value)]
    | none => return all ++ (← fields output w)) []

/-- Assignments in their order, with the way to make one. -/
def assignAll (output : List Command → Act Octets) (set : Octets → Octets → Act Unit)
    (assignments : List (Octets × Word)) : Act (List Octets) :=
  assignments.foldlM (fun shown (name, w) => do
    let value ← wordText output .all w
    set name value
    return shown ++ [name ++ ['='] ++ value]) []

/-- A command is shown on an open file before it runs, if that is what the options say. -/
def trace (shown : Option Nat) (words : List Octets) : Act Unit := do
  match shown with
  | some index =>
    if (← hasFlag 'x') && !words.isEmpty then
      let front := (← valueOf? (lit "PS4")).getD (lit "+ ")
      writeTo index (front ++ Text.joinWith [' '] words ++ ['\n'])
  | none => return

/-- An assignment for one command. -/
def assignExported (name value : Octets) : Act Unit := do
  assign name value
  setProcess fun p => { p with
    parameters := p.parameters.insert name ⟨some value, true, false⟩ }

/-- These parameters are as before afterwards. -/
def withVariables {α : Type} (names : List Octets) (x : Act α) : Act α :=
  restoring (fun before p => { p with
    parameters := names.foldl (fun vs name =>
      match before.parameters[name]? with
      | some v => vs.insert name v
      | none => vs.erase name) p.parameters }) x

/-- How deep functions can call each other. -/
def callLimit : Nat := 1000

/-- What local parameters were is put back. -/
def dropLocals (p : Process) : Process :=
  match p.locals with
  | [] => p
  | saved :: outer =>
    { p with
      locals := outer
      flags := match saved.reverse.lookup ['-'] with
        | some (some v) => v.value.getD []
        | _ => p.flags
      parameters := saved.foldl (fun vs (name, old) =>
        match old with
        | some v => if name = ['-'] then vs else vs.insert name v
        | none => vs.erase name) p.parameters }

/-- A function is called. -/
def call (run : Command → Act Unit) (f : Function) (arguments : List Octets) : Act Unit := do
  if callLimit ≤ (← process).calls then
    refuse (lit "Maximum function recursion depth (1000) reached")
  let saved ← restoring (fun before p => { dropLocals p with
      arguments := before.arguments, loops := before.loops, calls := before.calls }) do
    setProcess fun p => { p with
      arguments, loops := 0, calls := p.calls + 1, locals := [] :: p.locals }
    try run f.body
    catch
      | .returned => pure ()
      | stop => throw stop
    return (← process).locals.headD []
  match saved.find? fun (name, old) => old.isNone && !isName name with
  | some (name, _) => refuse (name ++ lit ": bad variable name")
  | none => pure ()

/-- A command of the shell runs in its own name. It fails if its output is closed. -/
def runBuiltin (b : Builtin) (name : Octets) (arguments : List Octets) : Act Unit := do
  modify fun s => { s with lost := false }
  let status ← restoring (fun before p => { p with caller := before.caller }) do
    setProcess fun p => { p with caller := some name }
    let status ← b arguments
    if (← get).lost then
      modify fun s => { s with lost := false }
      complain (name ++ lit ": I/O error")
      return status ||| 1
    else return status
  setStatus status

/-- A program is started by its name. -/
def runProgram (run : Command → Act Unit) (name : Octets) (arguments : List Octets) : Act Unit := do
  let found ← match ← pathOfProgram name with
    | .ok path => runAt run name path arguments
    | .error obstacle => pure (.error obstacle)
  match found with
  | .ok finish =>
    setStatus (← told finish)
    receivePending run
  | .error obstacle =>
    complain (name ++ lit ": " ++ obstacleWords "not found" obstacle)
    let absent := [.missing, .notDirectory, .nameTooLong, .tooManyLinks].contains obstacle
    setStatus (if absent || !name.contains '/' then 127 else 126)

/-- What a name stands for as a command. -/
inductive Meaning where
  | special (b : Builtin)
  | defined (f : Function)
  | regular (b : Builtin)
  | program

/-- What a name stands for, functions apart if it stands behind `command`. -/
def meaningOf (run : Command → Act Unit) (plain : Bool) (name : Octets) : Act Meaning := do
  let p ← process
  match builtin? run name with
  | some b =>
    if Builtin.specials.contains name then return if plain then .regular b else .special b
    else
      match p.functions[name]? with
      | some f => return if plain then .regular b else .defined f
      | none => return .regular b
  | none =>
    match p.functions[name]? with
    | some f => return if plain then .program else .defined f
    | none => return .program

/-- The words behind `command`, if it is there to run them. -/
def behindCommand : List Octets → Option (List Octets)
  | name :: rest =>
    if name = lit "command" then
      match rest with
      | ['-', 'p'] :: rest => behindCommand (name :: rest)
      | ['-', '-'] :: first :: rest => some (first :: rest)
      | ['-'] :: rest => some (['-'] :: rest)
      | first :: _ => if first.head? = some '-' then none else some rest
      | [] => none
    else none
  | [] => none

/-- The shell becomes a program. -/
def become (run : Command → Act Unit) (words : List Octets) : Act Unit := do
  match words with
  | [] => setStatus 0
  | name :: arguments =>
    let found ← match ← pathOfProgram name with
      | .ok path => runAt run name path arguments
      | .error obstacle => pure (.error obstacle)
    match found with
    | .ok (.exited status) =>
      setStatus status
      setProcess fun p => { p with actions := p.actions.filter fun a => a.1 != 0 }
      throw .exited
    | .ok (.killed signal) => throw (.killed signal)
    | .error obstacle =>
      complain (lit "exec: " ++ name ++ lit ": " ++ obstacleWords "not found" obstacle)
      setStatus (if obstacle = .missing ∨ obstacle = .notDirectory then 127 else 126)
      throw .exited

/-- A command of words, assignments and redirections. -/
def runSimple (run : Command → Act Unit) (line : Nat) (assignments : List (Octets × Word))
    (words : List Word) (redirections : List Redirection) : Act Unit := do
  setProcess fun p => { p with line }
  modify fun s => { s with substitution := none }
  let output := outputOf run
  let names := assignments.map (·.1)
  let all ← expandWords output words
  let shown ← descriptor? 2
  let (plain, all) := match behindCommand all with
    | some rest => (true, rest)
    | none => (false, all)
  match all with
  | [] =>
    withDescriptors redirections do
      if ← redirectAll output redirections then
        trace shown (← assignAll output assign assignments)
        setStatus ((← get).substitution.getD 0)
  | name :: arguments =>
    if name = lit "exec" then
      if ← redirectAll output redirections then
        trace shown ((← assignAll output assignExported assignments) ++ all)
        become run arguments
      else throw .failed
    else
      match ← meaningOf run plain name with
      | .special b =>
        withDescriptors redirections do
          if ← redirectAll output redirections then
            trace shown ((← assignAll output assign assignments) ++ all)
            runBuiltin b name arguments
          else throw .failed
      | .defined f =>
        withDescriptors redirections do
          if ← redirectAll output redirections then
            withVariables names do
              trace shown ((← assignAll output assignExported assignments) ++ all)
              call run f arguments
      | .regular b =>
        withDescriptors redirections do
          if ← redirectAll output redirections then
            withVariables names do
              trace shown ((← assignAll output assignExported assignments) ++ all)
              try runBuiltin b name arguments
              catch
                | .failed => pure ()
                | stop => throw stop
      | .program =>
        withDescriptors redirections do
          if ← redirectAll output redirections then
            withVariables names do
              trace shown ((← assignAll output assignExported assignments) ++ all)
              runProgram run name arguments
  checkFailure

/-! ## Commands made of commands -/

/-- How a round of a loop ends. -/
inductive Round where
  | again
  | finished
  | left

/-- A round of a loop, which says whether there is to be another one. -/
def round (x : Act Bool) : Act Round := do
  try
    if ← x then return .again else return .finished
  catch
    | .broken n => if n ≤ 1 then return .left else throw (.broken (n - 1))
    | .continued n => if n ≤ 1 then return .again else throw (.continued (n - 1))
    | stop => throw stop

/-- How often a loop can run. -/
def roundLimit : Nat := 1000000

/-- How often a loop can run that has a deadline. -/
def shortRoundLimit : Nat := 100000

/-- Runs rounds of a loop. The status is that of the last round. -/
def rounds (x : Act Bool) : (limit last : Nat) → Act Unit
  | 0, _ => do
    if (← process).deadline.isSome then throw .expired else throw (.killed 9)
  | limit + 1, last => do
    match ← round x with
    | .again => rounds x limit (← process).status
    | .finished => setStatus last
    | .left => return

/-- Something in one more loop. -/
def inLoop {α : Type} (x : Act α) : Act α :=
  restoring (fun before p => { p with loops := before.loops }) do
    setProcess fun p => { p with loops := p.loops + 1 }
    x

/-- A loop with a condition. -/
def runLoop (run : Command → Act Unit) (negated : Bool) (condition body : List Command) :
    Act Unit :=
  inLoop do rounds (do
    tested (runAll run condition)
    if ((← process).status == 0) == negated then return false
    else
      runAll run body
      return true) (if (← process).deadline.isSome then shortRoundLimit else roundLimit) 0

/-- A loop through words. -/
def runEach (run : Command → Act Unit) (name : Octets) (body : List Command) :
    List Octets → Act Unit
  | [] => return
  | value :: rest => do
    match ← round do
        assign name value
        runAll run body
        return true with
    | .left => return
    | _ => runEach run name body rest

/-- The commands of the first case of which a pattern fits. -/
def selected (output : List Command → Act Octets) (subject : Octets) :
    List (List Word × List Command) → Act (List Command)
  | [] => return []
  | (patterns, body) :: rest => do
    let found ← patterns.foldlM (fun found w => do
      if found then return true else return (← wordPattern output w).fits subject) false
    if found then return body else selected output subject rest

/-- A word in which nothing stands for something else, as a text. -/
def fixedText? : Word → Option Octets
  | [] => some []
  | p :: rest => do
    let t ← match p with
      | .plain c => some [c]
      | .quoted c => some [c]
      | .single t => some t
      | .double inner => bare? inner
      | _ => none
    return t ++ (← fixedText? rest)

/-- The file that a redirection writes to is there from now on, and has no content. -/
def readyTarget (r : Redirection) : Act Unit := do
  match r with
  | .mk _ mode target _ =>
    let isNew := mode == .write || mode == .overwrite
    if isNew || mode == .append then
      match fixedText? target with
      | none => return
      | some path =>
        let files ← files
        match files.writePlace Files.linkLimit files.here (decode path) with
        | .error _ => return
        | .ok place =>
          let fresh := setFiles (files.setContent place [])
          match files.entry? place with
          | none => fresh
          | some (.file ..) => if isNew then fresh
          | _ => return

/-- The files that a part of a pipeline writes to. -/
def readyPart : Command → Act Unit
  | .simple _ _ _ redirections => redirections.forM readyTarget
  | .redirected _ _ redirections => redirections.forM readyTarget
  | _ => return

/-- A part of a pipeline is a program, which takes some time to start. -/
def startsProgram (run : Command → Act Unit) : Command → Act Bool
  | .simple _ _ words _ => do
    match words.head?.bind fixedText? with
    | some name =>
      match ← meaningOf run false name with
      | .program => return true
      | _ => return false
    | none => return false
  | _ => return false

/-- What the parts behind the first one write to is there before a program starts. -/
def readyParts (run : Command → Act Unit) (parts : List Command) : Act Unit := do
  match parts with
  | first :: rest =>
    if (← startsProgram run first) && !(← hasFlag 'C') then rest.forM readyPart
  | [] => return

/-- The parts of a pipeline, each in a subshell that reads what the one before it has
written. -/
def runParts (run : Command → Act Unit) (input : Option Nat) : List Command → Act Unit
  | [] => return
  | [last] => do
    let finish ← subshell run do
      if input.isSome then setDescriptor 0 input
      run last
    setStatus finish.status
  | part :: rest => do
    let index ← addOpened ⟨.buffer (.empty true), 0, true⟩
    let _ ← subshell run do
      if input.isSome then setDescriptor 0 input
      setDescriptor 1 (some index)
      run part
    runParts run (some index) rest

/-- One command, by the way to run those inside it. -/
def step (run : Command → Act Unit) : Command → Act Unit
  | .simple line assignments words redirections =>
    patiently run (runSimple run line assignments words redirections) jobLimit
  | .pipeline true [part] => do
    tested (run part)
    setStatus (if (← process).status = 0 then 1 else 0)
  | .pipeline true parts => do
    readyParts run parts
    tested (runParts run none parts)
    setStatus (if (← process).status = 0 then 1 else 0)
  | .pipeline false parts => do
    readyParts run parts
    runParts run none parts
    checkFailure
  | .both first second => do
    tested (run first)
    if (← process).status = 0 then run second
  | .either first second => do
    tested (run first)
    if (← process).status ≠ 0 then run second
  | .background body => do
    let job ← newJob body
    let before ← get
    let later : Act Unit := set { before with jobs := before.jobs ++ [job] }
    if sleeps body then later
    else
      try
        runJob run job
        receivePending run
      catch
        | .blocked => later
        | stop => throw stop
  | .group body => runAll run body
  | .subshell line body => do
    setProcess fun p => { p with line }
    let finish ← subshell run (runAll run body)
    setStatus finish.status
    checkFailure
  | .choose condition body otherwise => do
    tested (runAll run condition)
    if (← process).status = 0 then runAll run body
    else
      if otherwise.isEmpty then setStatus 0
      runAll run otherwise
  | .loop negated condition body => runLoop run negated condition body
  | .each line name words body => do
    setProcess fun p => { p with line }
    let values ← expandWords (outputOf run) words
    if values.isEmpty then setStatus 0
    inLoop (runEach run name body values)
  | .select line subject cases => do
    setProcess fun p => { p with line }
    let output := outputOf run
    let subject ← wordText output .first subject
    let body ← selected output subject cases
    if body.isEmpty then setStatus 0
    runAll run body
  | .define line name body => do
    setProcess fun p => { p with functions := p.functions.insert name ⟨line, body⟩ }
    setStatus 0
  | .redirected line body redirections => do
    setProcess fun p => { p with line }
    withDescriptors redirections do
      if ← patiently run (redirectAll (outputOf run) redirections) jobLimit then run body
      else checkFailure

/-- How deep commands can stand in each other. -/
def depthLimit : Nat := 20000

/-- Runs a command, with so many levels of commands inside it. -/
def runner : Nat → Command → Act Unit
  | 0, _ => throw (.killed 11)
  | n + 1, c => do
    if !(← hasFlag 'n') then step (runner n) c

end Equate.Shell
