import Equate.CommandLine.Arguments
import Equate.CommandLine.Invocation
import Equate.Files.Document
import Equate.Problem.Document
import Equate.Problem.Source
import Equate.Settings
import Equate.Solver.Call
import Equate.Solver.Program
import Equate.Unit.Catalog

/-!
# Running the program

A run gets the programs that can be started, the files and the arguments, and leaves an
exit code, what it prints, the failure if it failed, and the files as they are then. The
settings are read first, then the units, then the source; for solving, the command and
the limits are checked before the source is looked into. A result is written to its file
before it is printed.
-/
namespace Equate.CommandLine

/-- What a run leaves. -/
structure Outcome where
  code : Nat
  output : Text
  failure : Option Failure
  warnings : List Warning
  files : Files

/-- The settings of a run, the units and the source text. -/
def load (files : Files) (s : Sources) : Except Failure (Settings × Unit.Table × Text) := do
  let settings ← match s.settings with
    | some path => files.load path Settings.read
    | none => .ok Settings.default
  let units ← match s.units <|> settings.unitsPath with
    | some path => files.load path Unit.Table.read
    | none => Unit.bundled
  let source ← files.readText s.input
  return (settings, units, source)

/-- A document as it is printed and written to files. -/
def printed (document : Json) : Text := Json.indented 0 document ++ "\n"

/-- The text that emitting prints, with the warnings about the source. -/
def emit (files : Files) (s : Sources) (request : Bool) :
    Except Failure (Text × List Warning) := do
  let (settings, units, source) ← load files s
  let (problem, warnings) ← Problem.ofSource units source
  let document :=
    if request then (Solver.Request.ofProblem problem settings.limits).toJson
    else problem.toJson
  return (printed document, warnings)

/-- A system to be solved: by which program, with which limits. -/
structure Task where
  program : Text
  arguments : List Text
  limits : Solver.Limits
  problem : Problem
  warnings : List Warning

/-- The task that is given. -/
def task (files : Files) (s : Sources) (o : SolveOptions) : Except Failure Task := do
  let (settings, units, source) ← load files s
  match if o.solver = [] then settings.solverCommand else o.solver with
  | [] =>
    .error (.configuration "no solver command given; pass --solver or set solver_command")
  | program :: arguments =>
    let limits : Solver.Limits :=
      ⟨o.tolerance.getD settings.limits.tolerance, o.iterations.getD settings.limits.iterations⟩
    limits.check
    let (problem, warnings) ← Problem.ofSource units source
    return { program, arguments, limits, problem, warnings }

/-- The files as a program leaves them; as they were if it was not started. -/
def filesAfter (files : Files) : Except Obstacle Solver.Ended → Files
  | .ok ended => ended.files
  | .error _ => files

/-- The call of the solver of a task, and the files after it. -/
def Task.call (t : Task) (programs : Solver.Programs) (files : Files) : Solver.Outcome × Files :=
  let answer (r : Solver.Request) := programs (t.program :: t.arguments) r.toBytes files
  let outcome := Solver.call (fun r => Solver.replyOf t.program (answer r)) t.limits t.problem
  (outcome, outcome.requests.foldl (fun files r => filesAfter files (answer r)) files)

/-- A result is written to a file, if one is given. -/
def deliver (files : Files) (path : Option Text) (content : Text) :
    Files × Except Failure Unit :=
  match path with
  | none => (files, .ok ())
  | some path =>
    match files.replace path (Text.toBytes content) with
    | (files, none) => (files, .ok ())
    | (files, some obstacle) => (files, .error (.file "write" path obstacle.message))

/-- A run that failed. -/
def failed (f : Failure) (warnings : List Warning) (files : Files) : Outcome :=
  { code := 1, output := [], failure := some f, warnings, files }

/-- A run that went well. -/
def done (output : Text) (warnings : List Warning) (files : Files) : Outcome :=
  { code := 0, output, failure := none, warnings, files }

/-- Solving. -/
def solve (programs : Solver.Programs) (files : Files) (s : Sources) (o : SolveOptions) :
    Outcome :=
  match task files s o with
  | .error f => failed f [] files
  | .ok t =>
    let (outcome, files) := t.call programs files
    let warnings := t.warnings ++ outcome.warnings
    match outcome.result with
    | .error f => failed f warnings files
    | .ok values =>
      let content := printed (Json.ofMap Json.ofFloat values)
      match deliver files o.output content with
      | (files, .error f) => failed f warnings files
      | (files, .ok ()) => done content warnings files

/-- A run with what is asked for. -/
def Invocation.run (programs : Solver.Programs) (files : Files) : Invocation → Outcome
  | help topic => done topic.helpText [] files
  | version => done (versionLine ++ "\n") [] files
  | emit sources request =>
    match CommandLine.emit files sources request with
    | .error f => failed f [] files
    | .ok (output, warnings) => done output warnings files
  | solve sources options => CommandLine.solve programs files sources options

/-- A run with arguments. Arguments that are not understood leave nothing but their exit
code. -/
def run (programs : Solver.Programs) (files : Files) (arguments : List Text) : Outcome :=
  match read? arguments with
  | none => { code := 2, output := [], failure := none, warnings := [], files }
  | some invocation => invocation.run programs files

end Equate.CommandLine
