import Equate.Shell.Expansion

/-!
# Running scripts, subshells and jobs

Everything here gets a way to run one command. A subshell works on a copy of the process
and leaves its status only; a command in a word is a subshell whose output goes to a
buffer.
-/
namespace Equate.Shell

/-- Runs commands one after the other. -/
def runAll (run : Command → Act Unit) (commands : List Command) : Act Unit := commands.forM run

/-- Takes in the documents that have been read. -/
def takeDocuments (s : Source) : Act Source := do
  modify fun state => { state with
    documents := s.documents ++ state.documents
    count := s.count }
  return { s with documents := [] }

/-- What has been read of a script is shown, if that is what the options say. -/
def showRead (before after : Source) : Act Unit := do
  if ← hasFlag 'v' then
    let _ ← write 2 (before.rest.take (before.rest.length - after.rest.length))

/-- Runs what is left of a script, and says whether that was anything. -/
def runSource (run : Command → Act Unit) : Nat → Bool → Source → Act Bool
  | 0, any, _ => return any
  | fuel + 1, any, s => do
    let (next, behind) := { s with aliases := (← process).aliases }.next
    showRead s behind
    let behind ← takeDocuments behind
    match next with
    | .error mistake =>
      setProcess fun p => { p with line := mistake.line }
      refuse mistake.words
    | .ok none => return any
    | .ok (some commands) =>
      runAll run commands
      runSource run fuel (any || !commands.isEmpty) behind

/-- Runs a script, and says whether it holds any command. Zero bytes in it do not count. -/
def runText (run : Command → Act Unit) (text : Octets) : Act Bool := do
  let text := text.filter (· ≠ '\x00')
  runSource run (text.length + 2) false (Source.ofText text (← get).count)

/-- The signals that do nothing if nothing else is said. -/
def isIgnored (signal : Nat) : Bool :=
  signal == 0 || signal == 17 || signal == 18 || signal == 23 || signal == 28

/-- Runs the action for a signal or for the end. The status stays as it is. -/
def runAction (run : Command → Act Unit) (action : Octets) : Act Unit := do
  let status := (← process).status
  let _ ← runText run action
  setStatus status

/-- A signal arrives at the shell that runs. -/
def receive (run : Command → Act Unit) (signal : Nat) : Act Unit := do
  match (← process).actions.lookup signal with
  | some [] => if signal = 9 then throw (.killed signal)
  | some action => if signal = 9 then throw (.killed signal) else runAction run action
  | none => if !isIgnored signal then throw (.killed signal)

/-- The signals that have waited for the shell arrive. -/
def receivePending (run : Command → Act Unit) : Act Unit := do
  let p ← process
  if p.isMain then
    let (mine, others) := (← get).pending.partition fun s => s.1 == p.number
    modify fun s => { s with pending := others }
    mine.forM fun s => receive run s.2

/-- A signal is sent to a shell by its number. -/
def signal (run : Command → Act Unit) (number signal : Nat) : Act Unit := do
  let p ← process
  if p.isMain && p.number = number then receive run signal
  else modify fun s => { s with pending := s.pending ++ [(number, signal)] }

/-- A shell runs to its end, with what is to be done there. It has no end if it waits for
others or if its time is over. -/
def toEnd (run : Command → Act Unit) (body : Act Unit) : Act Finish := do
  let killed ← try
      body
      pure none
    catch
      | .killed signal => pure (some signal)
      | .blocked => throw .blocked
      | .expired => throw .expired
      | _ => pure none
  match killed with
  | some signal => return .killed signal
  | none =>
    let p ← process
    match p.actions.lookup 0 with
    | none => return .exited (p.status % 256)
    | some action =>
      setProcess fun p => { p with
        actions := p.actions.filter fun a => a.1 != 0, exiting := some p.status }
      try
        runAction run action
        return .exited (p.status % 256)
      catch
        | .killed signal => return .killed signal
        | .blocked => throw .blocked
        | .expired => throw .expired
        | _ => return .exited ((← process).status % 256)

/-- Something in a subshell. The actions for signals stay behind, except where a signal is
to be ignored. -/
def subshell (run : Command → Act Unit) (body : Act Unit) : Act Finish := do
  let before ← process
  setProcess fun p => { p with
    isMain := false, actions := p.actions.filter fun a => a.2.isEmpty && a.1 != 0 }
  let finish ← try toEnd run body
    catch stop =>
      setProcess fun _ => before
      throw stop
  setProcess fun _ => before
  receivePending run
  return finish

/-- The output of commands. -/
def outputOf (run : Command → Act Unit) (body : List Command) : Act Octets := do
  let index ← addOpened ⟨.buffer (.empty false), 0, true⟩
  let finish ← subshell run do
    setDescriptor 1 (some index)
    runAll run body
  modify fun s => { s with substitution := some finish.status }
  unread index

/-- A signal in words. -/
def signalWords (signal : Nat) : Octets :=
  let words := ["Hangup", "Interrupt", "Quit", "Illegal instruction", "Trace/breakpoint trap",
    "Aborted", "Bus error", "Floating point exception", "Killed", "User defined signal 1",
    "Segmentation fault", "User defined signal 2", "Broken pipe", "Alarm clock", "Terminated",
    "Stack fault", "Child exited", "Continued", "Stopped (signal)", "Stopped",
    "Stopped (tty input)", "Stopped (tty output)", "Urgent I/O condition",
    "CPU time limit exceeded", "File size limit exceeded", "Virtual timer expired",
    "Profiling timer expired", "Window changed", "I/O possible", "Power failure",
    "Bad system call"]
  match words[signal - 1]? with
  | some w => lit w
  | none => lit "Real-time signal " ++ Text.decimal (signal - 34)

/-- The status that another shell leaves. That it was killed is told, unless the user or
a broken pipe has done it. -/
def told (finish : Finish) : Act Nat := do
  match finish with
  | .killed signal =>
    if signal != 2 && signal != 13 then
      let _ ← write 2 (signalWords signal ++ ['\n'])
  | .exited _ => pure ()
  return finish.status

/-! ## Jobs -/

/-- A new number for a shell or a job. -/
def newNumber : Act Nat := do
  let n := (← get).numbers + 1
  modify fun s => { s with numbers := n }
  return n

/-- A command becomes a job, which reads nothing. -/
def newJob (body : Command) : Act Job := do
  let number ← newNumber
  let index ← addOpened ⟨.void, 0, false⟩
  let p ← process
  setProcess fun p => { p with lastJob := some number, status := 0 }
  let descriptors := (0, index) :: p.descriptors.filter fun d => d.1 != 0
  return ⟨number, body, { p with isMain := false, descriptors }⟩

/-- A job runs. It is no part of the time of the shell. -/
def runJob (run : Command → Act Unit) (job : Job) : Act Unit := do
  let before ← process
  let clock := (← get).clock
  setProcess fun _ => job.process
  let finish ← subshell run (run job.body)
  setProcess fun _ => before
  modify fun s => { s with ended := (job.number, finish) :: s.ended, clock }

/-- The first of so many jobs that can run does so; whether there is any. A job that finds
nothing to read goes to the end of the row, and nothing that it did counts. -/
def runSomeJob (run : Command → Act Unit) : Nat → Act Bool
  | 0 => return false
  | n + 1 => do
    let before ← get
    match before.jobs with
    | [] => return false
    | job :: others =>
      set { before with jobs := others }
      try
        runJob run job
        return true
      catch
        | .blocked =>
          set { before with jobs := others ++ [job] }
          runSomeJob run n
        | stop => throw stop

/-- The jobs run, and those that they start, so many at most. -/
def runJobs (run : Command → Act Unit) : Nat → Act Unit
  | 0 => return
  | n + 1 => do
    if ← runSomeJob run (← get).jobs.length then runJobs run n
    else receivePending run

/-- How many jobs can run. -/
def jobLimit : Nat := 1000

/-- Something that may find nothing to read. Then jobs run first, and it starts again. -/
def patiently {α : Type} (run : Command → Act Unit) (x : Act α) : Nat → Act α
  | 0 => x
  | n + 1 => do
    let before ← get
    try x
    catch
      | .blocked =>
        set before
        if ← runSomeJob run before.jobs.length then patiently run x n else throw .blocked
      | stop => throw stop

end Equate.Shell
