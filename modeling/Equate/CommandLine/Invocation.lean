import Equate.Text.Basic

/-!
# What can be asked for

A source text can be emitted, as the system it describes or as the request for it, or
solved. Both start from the same files.
-/
namespace Equate.CommandLine

/-- The files of a run. The units named here come before those of the settings. -/
structure Sources where
  input : Text
  units : Option Text
  settings : Option Text
  deriving DecidableEq, Repr

/-- What is given for solving beside the files. What is left out comes from the
settings. -/
structure SolveOptions where
  solver : List Text
  tolerance : Option Float
  iterations : Option Nat
  output : Option Text
  deriving DecidableEq, Repr

/-- What help can be asked about. -/
inductive Topic where
  | program
  | emit
  | solve
  deriving DecidableEq, Repr

/-- What is asked for. -/
inductive Invocation where
  | help (topic : Topic)
  | version
  | emit (sources : Sources) (request : Bool)
  | solve (sources : Sources) (options : SolveOptions)
  deriving DecidableEq, Repr

/-! ## Help texts -/

/-- The name of the program with its version. -/
def versionLine : Text := "equate 0.1.0"

/-- The help about a topic, by lines. -/
def Topic.help : Topic → List String
  | program =>
    ["Preprocess and solve systems of nonlinear equations",
      "",
      "Usage: equate [OPTIONS] <COMMAND>",
      "",
      "Commands:",
      "  emit   Preprocess a source file and print the result without solving",
      "  solve  Preprocess a source file and solve it with an external solver",
      "  help   Print this message or the help of the given subcommand(s)",
      "",
      "Options:",
      "  -v, --verbose  Enable debug logging",
      "  -h, --help     Print help",
      "  -V, --version  Print version"]
  | emit =>
    ["Preprocess a source file and print the result without solving",
      "",
      "Usage: equate emit [OPTIONS] <FILE>",
      "",
      "Arguments:",
      "  <FILE>  Source file",
      "",
      "Options:",
      "      --units <FILE>     Unit configuration (overrides settings)",
      "  -v, --verbose          Enable debug logging",
      "      --settings <FILE>  Settings file",
      "      --request          Print the solver request instead of the resolved system",
      "  -h, --help             Print help"]
  | solve =>
    ["Preprocess a source file and solve it with an external solver",
      "",
      "Usage: equate solve [OPTIONS] <FILE>",
      "",
      "Arguments:",
      "  <FILE>  Source file",
      "",
      "Options:",
      "      --units <FILE>             Unit configuration (overrides settings)",
      "  -v, --verbose                  Enable debug logging",
      "      --settings <FILE>          Settings file",
      "      --solver <CMD>...          Solver command line, program first (overrides settings)",
      "      --tolerance <TOLERANCE>    Convergence tolerance (overrides settings)",
      "      --iterations <ITERATIONS>  Iteration limit (overrides settings)",
      "  -o, --output <FILE>            Also write the result mapping to this file",
      "  -h, --help                     Print help"]

/-- The help about a topic. -/
def Topic.helpText (t : Topic) : Text := t.help.flatMap fun line => line.toList ++ ['\n']

end Equate.CommandLine
