import Std.Data.ExtTreeMap
import Equate.Files.Obstacle
import Equate.Text.Encoding

/-!
# A tree of files

Every file has a place: the names on the way to it from the root. A path is followed
step by step, from the root if it starts with a slash, otherwise from the working
directory. An empty step and a dot stay where they are, two dots go up, and from the
root they lead to the root itself; any step at all needs a directory to start from. A
link on the way is followed to where its own path leads, from the directory it stands
in.
-/
namespace Equate

/-- The names on the way from the root. -/
abbrev Place := List Text

/-- A file without content of its own. -/
inductive Device where
  /-- Nothing can be read from it, and what is written to it is lost. -/
  | void
  /-- One of the streams that a program starts with, by its number. -/
  | stream (number : Nat)
  /-- What is written to it is kept until it is read. It is known by a number. -/
  | pipe (number : Nat)
  deriving DecidableEq

/-- What stands at a place. Some files can be run. -/
inductive Entry where
  | file (content : Bytes) (runs : Bool)
  | directory
  | device (d : Device)
  | link (target : Text)
  deriving DecidableEq

/-- The entries below the root, and the place of the working directory. -/
structure Files where
  entries : Std.ExtTreeMap Place Entry compare
  here : Place

namespace Files

/-- The entry at a place. The root is a directory. -/
def entry? (files : Files) : Place → Option Entry
  | [] => some .directory
  | place => files.entries[place]?

/-- An entry is put at a place. -/
def put (files : Files) (place : Place) (e : Entry) : Files :=
  { files with entries := files.entries.insert place e }

/-- The entry at a place is taken away. -/
def remove (files : Files) (place : Place) : Files :=
  { files with entries := files.entries.erase place }

/-- A place is another one or below it. -/
def isBelow (place top : Place) : Bool := top.isPrefixOf place

/-- The entry at a place is taken away with all below it. -/
def removeAll (files : Files) (place : Place) : Files :=
  { files with entries := files.entries.filter fun p _ => !isBelow p place }

/-- The entry at a place is put at another one, with all below it. -/
def carry (files : Files) (source destination : Place) : Files :=
  files.entries.toList.foldl (fun files (p, e) =>
    if isBelow p source then
      { files with entries :=
          (files.entries.erase p).insert (destination ++ p.drop source.length) e }
    else files) files

/-- What is below a place stands at another one too. -/
def copyBelow (files : Files) (source destination : Place) : Files :=
  files.entries.toList.foldl (fun files (p, e) =>
    if isBelow p source then files.put (destination ++ p.drop source.length) e else files) files

/-- The entries below a place, and the one at it, in the order of their places. -/
def below (files : Files) (place : Place) : List (Place × Entry) :=
  files.entries.toList.filter fun (p, _) => isBelow p place

/-- The directories that lead to a place, the root apart. -/
def ancestors (place : Place) : List Place :=
  (List.range place.length).tail.map fun n => place.take n

/-- An entry is put at a place, with the directories that lead to it. -/
def add (files : Files) (place : Place) (e : Entry) : Files :=
  ((ancestors place).foldl (fun files p => files.put p .directory) files).put place e

/-- The names in a directory, in their order. -/
def names (files : Files) (directory : Place) : List Text :=
  files.entries.toList.filterMap fun (place, _) =>
    if place.length = directory.length + 1 ∧ place.take directory.length = directory then
      place.getLast?
    else none

/-- The longest name, in bytes. -/
def nameLimit : Nat := 255

/-- The longest path, in bytes. -/
def pathLimit : Nat := 4095

/-- How many links may lead to each other. -/
def linkLimit : Nat := 40

/-- One step of a path. The name itself is not followed if it is a link. -/
def step (files : Files) (place : Place) (name : Text) : Except Obstacle Place :=
  match files.entry? place with
  | some .directory =>
    if name = [] ∨ name = ['.'] then .ok place
    else if name = ['.', '.'] then .ok place.dropLast
    else if nameLimit < Text.byteCount name then .error .nameTooLong
    else if (files.entry? (place ++ [name])).isSome then .ok (place ++ [name])
    else .error .missing
  | some _ => .error .notDirectory
  | none => .error .missing

/-- The place that a path starts from, for a path that is followed from a directory. -/
def startFrom (directory : Place) (path : Text) : Place :=
  if path.head? = some '/' then [] else directory

/-- The names of a path. An empty path has none, which makes it different from a path
of one dot. -/
def steps (path : Text) : Except Obstacle (List Text) :=
  if path = [] then .error .missing
  else if '\x00' ∈ path then .error .zeroInPath
  else if pathLimit < Text.byteCount path then .error .nameTooLong
  else .ok (Text.splitOn '/' path)

/-- Where the entry at a place leads, over so many links at most. -/
def follow (files : Files) : Nat → Place → Except Obstacle Place
  | 0, _ => .error .tooManyLinks
  | links + 1, place =>
    match files.entry? place with
    | some (.link target) => do
      (← steps target).foldlM (fun p name => do files.follow links (← files.step p name))
        (startFrom place.dropLast target)
    | _ => .ok place

/-- The place that steps lead to. -/
def walk (files : Files) (place : Place) (names : List Text) : Except Obstacle Place :=
  names.foldlM (fun p name => do files.follow linkLimit (← files.step p name)) place

/-- The place that a path leads to. -/
def place (files : Files) (path : Text) : Except Obstacle Place := do
  files.walk (startFrom files.here path) (← steps path)

/-- The entry that a path leads to. -/
def find (files : Files) (path : Text) : Except Obstacle Entry := do
  match files.entry? (← files.place path) with
  | some e => .ok e
  | none => .error .missing

/-- The bytes that are read along a path. -/
def read (files : Files) (path : Text) : Except Obstacle Bytes := do
  match ← files.find path with
  | .file content _ => .ok content
  | .directory => .error .isDirectory
  | .device _ => .ok []
  | .link _ => .error .tooManyLinks

/-- The place of an entry that may not be there yet, and whether slashes follow its
name. The last name is not followed. -/
structure Target where
  directory : Place
  name : Text
  slashed : Bool

/-- The place of the entry itself. -/
def Target.place (t : Target) : Place := t.directory ++ [t.name]

/-- A name that leads to a directory that is always there. -/
def Target.isDots (t : Target) : Bool := t.name == ['.'] || t.name == ['.', '.']

/-- What a path means from a directory as the place of an entry. A path without a last
name leads to a directory. -/
def targetFrom (files : Files) (start : Place) (path : Text) : Except Obstacle Target := do
  let names := (← steps path).reverse
  match names.dropWhile (· = []) with
  | [] => .error .isDirectory
  | name :: before =>
    let directory ← files.walk (startFrom start path) before.reverse
    match files.entry? directory with
    | some .directory =>
      if nameLimit < Text.byteCount name then .error .nameTooLong
      else .ok ⟨directory, name, names.head? = some []⟩
    | _ => .error .notDirectory

/-- What a path means as the place of an entry. -/
def target (files : Files) (path : Text) : Except Obstacle Target :=
  files.targetFrom files.here path

/-- The entry of a path itself, with its place: a link that the path ends in is not
followed, unless slashes follow its name. -/
def entryItself (files : Files) (path : Text) : Except Obstacle (Place × Entry) := do
  let place ← match files.target path with
    | .ok t => if t.slashed || t.isDots then files.place path else .ok t.place
    | .error _ => files.place path
  match files.entry? place with
  | some e => .ok (place, e)
  | none => .error .missing

/-- The place of the file that writing along a path reaches, over so many links at
most. -/
def writePlace (files : Files) : Nat → Place → Text → Except Obstacle Place
  | 0, _, _ => .error .tooManyLinks
  | links + 1, start, path => do
    let t ← files.targetFrom start path
    if t.slashed || t.isDots then .error .isDirectory
    else
      match files.entry? t.place with
      | some .directory => .error .isDirectory
      | some (.link target) => files.writePlace links t.directory target
      | _ => .ok t.place

/-- A file that could be run before can be run afterwards. -/
def setContent (files : Files) (place : Place) (content : Bytes) : Files :=
  match files.entry? place with
  | some (.device _) => files
  | some (.file _ runs) => files.put place (.file content runs)
  | _ => files.put place (.file content false)

/-- A file with this content, instead of the one that was there. -/
def create (files : Files) (path : Text) (content : Bytes) : Except Obstacle Files := do
  return files.setContent (← files.writePlace linkLimit files.here path) content

/-- The files that are new or have another content, in the order of their places. What
a link leads to counts as its content. -/
def changes (before after : Files) : List (Place × Bytes) :=
  after.entries.toList.filterMap fun (place, _) =>
    let path := '/' :: Text.joinWith "/" place
    match after.find path with
    | .ok (.file new _) =>
      match before.find path with
      | .ok (.file old _) => if new = old then none else some (place, new)
      | _ => some (place, new)
    | _ => none

end Files
end Equate
