import Equate.CommandLine.Run
import Equate.Failure.Document
import Equate.Shell.Start

/-!
# The program

Everything that acts is here. The files below the working directory, and those that an
argument names elsewhere, are read into a tree; the run itself is a function; then the
files that are new or changed are written back, and what is to be said is printed.
-/
namespace Equate.Main

/-- How deep directories are read into. -/
def depth : Nat := 8

/-- The place of an absolute path. -/
def placeOf (path : String) : Place :=
  (Text.splitOn '/' path.toList).foldl (fun place name =>
    if name = [] ∨ name = ['.'] then place
    else if name = ['.', '.'] then place.dropLast
    else place ++ [name]) []

/-- The path of a place. -/
def pathOf (place : Place) : String := String.ofList ('/' :: Text.joinWith "/" place)

/-- The tree with what a directory entry leads to. What cannot be read is left out. -/
def gather (files : Files) (place : Place) (found : IO.FS.DirEntry) : Nat → IO Files
  | 0 => return files
  | depth + 1 => do
    let place := place ++ [found.fileName.toList]
    try
      if ← found.path.isDir then
        (← found.path.readDir).foldlM (fun files inner => gather files place inner depth)
          (files.put place .directory)
      else return files.put place (.file (← IO.FS.readBinFile found.path).data.toList false)
    catch _ => return files

/-- The tree with the file that an argument names, if it names one. -/
def gatherNamed (files : Files) (argument : String) : IO Files := do
  if (files.find argument.toList).isOk then return files
  try
    let content ← IO.FS.readBinFile argument
    let place := placeOf (if argument.startsWith "/" then argument
      else pathOf files.here ++ "/" ++ argument)
    return files.add place (.file content.data.toList false)
  catch _ => return files

/-- The tree that a run starts from. -/
def gatherAll (arguments : List String) : IO Files := do
  let directory ← IO.currentDir
  let here := placeOf directory.toString
  let files ← (← directory.readDir).foldlM (fun files found => gather files here found depth)
    (Files.usual here)
  arguments.foldlM gatherNamed files

/-- The files that are new or changed are written, each under a name of its own before
it takes its place. -/
def writeBack (before after : Files) : IO Unit :=
  (before.changes after).forM fun (place, content) => do
    let path := pathOf place
    IO.FS.writeBinFile (path ++ ".new") ⟨content.toArray⟩
    IO.FS.rename (path ++ ".new") path

/-- The name that a warning is about. -/
def subject : Warning → Text
  | .unusedGuess name => name
  | .unusedBound name => name
  | .outsideBound name _ => name
  | .shadowed name .. => name

end Equate.Main

open Equate in
/-- The program. -/
def main (arguments : List String) : IO UInt32 := do
  let files ← Main.gatherAll arguments
  let outcome := CommandLine.run Shell.start files (arguments.map String.toList)
  Main.writeBack files outcome.files
  for warning in outcome.warnings do
    IO.eprintln (String.ofList (warning.message ++ ": " ++ Main.subject warning))
  IO.print (String.ofList outcome.output)
  if let some failure := outcome.failure then
    IO.eprintln (String.ofList ("error: " ++ failure.message))
    IO.eprintln (String.ofList (Json.compact failure.toJson))
  else if outcome.code != 0 then
    IO.eprint (String.ofList CommandLine.Topic.program.helpText)
  return outcome.code.toUInt32
