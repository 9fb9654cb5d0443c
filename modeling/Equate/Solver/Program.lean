import Equate.Files.Basic
import Equate.Solver.Request
import Equate.Text.Blank

/-!
# Programs as solvers

A program gets the request as one compact document and answers with one. A program that
cannot be started, does not end well, does not take the request or answers with something
else counts as a solver that failed, with words that name the program.
-/
namespace Equate.Solver

/-- How a program ended. -/
inductive Ending where
  | exited (status : Nat)
  | killed (signal : Nat)
  deriving DecidableEq, Repr

/-- The names of the signals from the first one on. -/
def signalNames : List Text :=
  ["HUP", "INT", "QUIT", "ILL", "TRAP", "ABRT", "BUS", "FPE", "KILL", "USR1", "SEGV", "USR2",
    "PIPE", "ALRM", "TERM", "STKFLT", "CHLD", "CONT", "STOP", "TSTP", "TTIN", "TTOU", "URG",
    "XCPU", "XFSZ", "VTALRM", "PROF", "WINCH", "IO", "PWR", "SYS"].map String.toList

/-- The name of a signal. -/
def signalName? (signal : Nat) : Option Text := (([] : Text) :: signalNames)[signal]?

/-- The ending in words. -/
def Ending.message : Ending → Text
  | exited status => "exit status: " ++ Text.decimal status
  | killed signal =>
    "signal: " ++ Text.decimal signal ++
      match signalName? signal with
      | some name => " (SIG" ++ name ++ ")"
      | none => []

/-- A program that has ended: what it wrote to its two streams, how much of its input it
did not read, and the files as it left them. -/
structure Ended where
  ending : Ending
  output : Bytes
  complaints : Bytes
  unread : Nat
  files : Files

/-- How much of an input can be handed over before the program reads any of it. -/
def pipeCapacity : Nat := 65536

/-- The programs that can be started. Each gets its command line, its input and the
files. -/
abbrev Programs := List Text → Bytes → Files → Except Obstacle Ended

/-- What came of starting a program, as the reply of a solver. -/
def replyOf (program : Text) : Except Obstacle Ended → Reply
  | .error obstacle =>
    .error ("failed to start '" ++ program ++ "': " ++ obstacle.message)
  | .ok ended =>
    if ended.ending = .exited 0 then
      if pipeCapacity < ended.unread then
        .error ("failed to write request to '" ++ program ++ "': " ++ Obstacle.brokenPipe.message)
      else match (Text.ofBytes? ended.output).bind readReply? with
      | some reply => reply
      | none => .error ("unreadable reply from '" ++ program ++ "'")
    else
      .error ("'" ++ program ++ "' exited with " ++ ended.ending.message ++ ": " ++
        Text.trim (Text.ofBytes ended.complaints))

/-- The bytes that a program gets for a request. -/
def Request.toBytes (r : Request) : Bytes := Text.toBytes (Json.compact r.toJson)

end Equate.Solver
