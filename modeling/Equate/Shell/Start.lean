import Equate.Shell.Execution

/-!
# Starting programs

The programs of a tree can be started by their names or their paths, with a text for
their input and two buffers for what they write.
-/
namespace Equate.Shell

/-- The state in which a program starts. -/
def startState (input : Octets) (files : Files) : State :=
  let parameters := [(lit "HOME", lit "/root"), (lit "PATH", usualPath),
    (lit "PWD", encode ('/' :: Text.joinWith "/" files.here))].foldl
      (fun (vs : Std.ExtTreeMap Octets Variable compare) (name, value) =>
        vs.insert name ⟨some value, true, false⟩) Std.ExtTreeMap.empty
  let process : Process :=
    { number := 1
      name := []
      arguments := []
      parameters
      functions := Std.ExtTreeMap.empty
      flags := []
      status := 0
      descriptors := [(0, 0), (1, 1), (2, 2)]
      actions := []
      here := files.here
      line := 0
      caller := none
      loops := 0
      calls := 0
      locals := []
      tested := false
      isMain := true
      lastJob := none
      exiting := none
      aliases := []
      tracked := []
      scanned := 0
      deadline := none }
  { process
    files
    opened := #[⟨.buffer (.holding input), 0, false⟩, ⟨.buffer (.empty false), 0, true⟩,
      ⟨.buffer (.empty false), 0, true⟩]
    documents := []
    count := 0
    jobs := []
    ended := []
    numbers := 100
    substitution := none
    pending := []
    clock := 0
    lost := false }

/-- A path that a program is started by. A name that is longer than names can be is
refused without a search. -/
def startPath (files : Files) (name : Text) : Except Obstacle Octets :=
  if '/' ∈ name then do
    let _ ← runnableAt files (encode name)
    return encode name
  else if name = [] then .error .missing
  else if Files.nameLimit < Text.byteCount name then .error .nameTooLong
  else lookUp files (encode name) (Text.splitOn ':' usualPath)

/-- How many bytes an argument has at most, with the zero byte behind it. -/
def argumentLimit : Nat := 131072

/-- Starts a command line. -/
def start : Solver.Programs := fun command input files =>
  if command.any fun word => '\x00' ∈ word then .error .zeroInArgument
  else
    match command with
    | [] => .error .missing
    | name :: arguments => do
      let path ← startPath files name
      if arguments.any fun a => argumentLimit ≤ Text.byteCount a then throw .argumentsTooLong
      let run := runner depthLimit
      let body : Act (Except Obstacle Finish) := do
        let finish ← runAt run (encode name) path (arguments.map encode)
        runJobs run jobLimit
        return finish
      let (result, state) := body.run.run (startState (ofBytes input) files)
      let content (n : Nat) : Bytes := match state.opened[n]? with
        | some ⟨.buffer b, _, _⟩ => toBytes b.content
        | _ => []
      let ending ← match result with
        | .ok (.ok (.exited status)) => .ok (Solver.Ending.exited (status % 256))
        | .ok (.ok (.killed signal)) => .ok (.killed signal)
        | .ok (.error obstacle) => .error obstacle
        | .error (.killed signal) => .ok (.killed signal)
        | .error _ => .ok (.exited state.process.status)
      return ⟨ending, content 1, content 2, (content 0).length,
        { state.files with here := files.here }⟩

end Equate.Shell
