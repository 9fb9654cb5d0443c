import Equate.Files.Usual
import Equate.Shell.State

/-!
# Finding programs

A name without a slash is looked for in the directories of `PATH`, one with a slash is a
path. What is found counts if it is a file that can be run.
-/
namespace Equate.Shell

/-- What can be run. -/
inductive Runnable where
  | program (name : Octets)
  /-- A script with the path of its interpreter, and one word more if it says so. -/
  | interpreted (interpreter : Octets) (word : Option Octets)
  /-- A text that does not say what runs it. -/
  | script

/-- What the content of a file is, if it can be run. -/
def runnable (content : Bytes) : Runnable :=
  match Files.programOf? content with
  | some name => .program (encode name)
  | none =>
    match ofBytes content with
    | '#' :: '!' :: rest =>
      let line := (rest.takeWhile (· ≠ '\n')).dropWhile (· = ' ')
      let interpreter := line.takeWhile fun c => c != ' ' && c != '\t'
      let word := (line.drop interpreter.length).dropWhile fun c => c == ' ' || c == '\t'
      .interpreted interpreter (if word = [] then none else some word)
    | _ => .script

/-- What a path leads to, if it can be run. -/
def runnableAt (files : Files) (path : Octets) : Except Obstacle Runnable := do
  match ← files.find (decode path) with
  | .file content true => return runnable content
  | _ => .error .denied

/-- Where programs are, if nothing else is said. -/
def usualPath : Octets := lit "/usr/local/sbin:/usr/local/bin:/usr/sbin:/usr/bin:/sbin:/bin"

/-- The path of a program that is in one of some directories. If there is only something
that cannot be run, that is said. -/
def lookUp (files : Files) (name : Octets) : List Octets → Except Obstacle Octets
  | [] => .error .missing
  | directory :: rest =>
    let path := if directory = [] then name else directory ++ ['/'] ++ name
    match runnableAt files path with
    | .ok _ => .ok path
    | .error .denied => (lookUp files name rest).mapError fun _ => .denied
    | .error _ => lookUp files name rest

/-- The path of a program by its name or path. -/
def pathOfProgram (name : Octets) : Act (Except Obstacle Octets) := do
  let files ← files
  if name.contains '/' then
    return (runnableAt files name).map fun _ => name
  else
    let directories := Text.splitOn ':' ((← valueOf? (lit "PATH")).getD usualPath)
    let found := lookUp files name directories
    match found, (← process).tracked.lookup name with
    | .ok path, none => setProcess fun p => { p with tracked := p.tracked ++ [(name, path)] }
    | _, _ => pure ()
    return found

end Equate.Shell
