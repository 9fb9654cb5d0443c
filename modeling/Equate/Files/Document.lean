import Equate.Failure
import Equate.Files.Basic

/-!
# Reading and writing files

A file that cannot be opened, cannot be read or holds no text fails with the path and
the step that failed. A document that is refused names the file it came from.

What is written goes to a staging file beside the target, which is then moved into its
place, so that nobody sees half of it. The staging name is the path with `.json.tmp`
instead of the target's own extension. A file that has this name already is lost.
-/
namespace Equate

namespace Files

/-! ## Reading -/

/-- The text of a file. -/
def readText (files : Files) (path : Text) : Except Failure Text :=
  match files.find path with
  | .error obstacle => .error (.file "open" path obstacle.message)
  | .ok .directory => .error (.file "read" path Obstacle.isDirectory.message)
  | .ok _ =>
    match (files.read path).toOption.bind Text.ofBytes? with
    | none => .error (.file "read" path Obstacle.notText.message)
    | some t => .ok t

end Files

/-- The failure to read a document, with the file it came from. -/
def Failure.within (path : Text) : Failure → Failure
  | .document reason => .document (reason ++ " (" ++ path ++ ")")
  | f => f

/-- What a file holds, by the reader of its kind of document. -/
def Files.load {α : Type} (files : Files) (path : Text) (read : Text → Except Failure α) :
    Except Failure α := do
  (read (← files.readText path)).mapError (Failure.within path)

namespace Files

/-! ## Writing as a whole -/

/-- A name without its extension. The dot that a name begins with is no extension. -/
def stem (name : Text) : Text :=
  match Text.splitAt? '.' name.reverse with
  | some (_, before) => if before = [] then name else before.reverse
  | none => name

/-- The path of the staging file. A path that ends in no name is its own. -/
def stagingPath (path : Text) : Text :=
  match (Text.splitOn '/' path).reverse.dropWhile fun name => name = [] || name = ['.'] with
  | [] => path
  | name :: before =>
    if name = ['.', '.'] then path
    else Text.joinWith "/" (before.reverse ++ [stem name ++ (".json.tmp" : Text)])

/-- An entry is moved to a path, over the file that is there. -/
def move (files : Files) (source : Place) (path : Text) : Except Obstacle Files := do
  let t ← files.target path
  if t.isDots then .error .busy
  else if t.slashed then .error .notDirectory
  else
    match files.entry? source with
    | none => .error .missing
    | some e =>
      match files.entry? t.place with
      | some .directory => .error .isDirectory
      | _ => .ok ((files.remove source).put t.place e)

/-- The tree without the file or link at a path; a directory stays. -/
def withoutFile (files : Files) (path : Text) : Files :=
  match files.entryItself path with
  | .ok (_, .directory) => files
  | .ok (place, _) => files.remove place
  | .error _ => files

/-- Writes a file as a whole; what stands in the way comes with the files as they are
then. -/
def replace (files : Files) (path : Text) (content : Bytes) : Files × Option Obstacle :=
  match files.create (stagingPath path) content with
  | .error obstacle => (files.withoutFile (stagingPath path), some obstacle)
  | .ok staged =>
    match staged.target (stagingPath path) with
    | .error obstacle => (staged, some obstacle)
    | .ok staging =>
      match staged.move staging.place path with
      | .error obstacle => (staged.remove staging.place, some obstacle)
      | .ok moved => (moved, none)

end Files
end Equate
