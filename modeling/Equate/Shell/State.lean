import Std.Data.ExtTreeMap
import Equate.Files.Basic
import Equate.Shell.Flags
import Equate.Shell.Grammar

/-!
# The state of a shell

A shell has parameters, functions and descriptors, which a subshell gets as a copy, and
works on files, open files and jobs, which all shells share. A descriptor leads to an
open file; descriptors that lead to the same one share its offset. A pipe is a buffer
that one command fills before the next one reads it. A job in the background runs at once,
unless it sleeps or finds nothing to read: then it waits until somebody waits for it, or to
the end. Time passes only where somebody sleeps.
-/
namespace Equate.Shell

/-- What has been written and not yet been read, the last first. -/
structure Buffer where
  chunks : List Octets
  count : Nat
  size : Nat
  isPipe : Bool

namespace Buffer

/-- A buffer with a content. -/
def holding (t : Octets) : Buffer := ⟨[t], 1, t.length, false⟩

/-- A buffer without content, between two commands or not. -/
def empty (isPipe : Bool) : Buffer := ⟨[], 0, 0, isPipe⟩

/-- More is written. -/
def add (b : Buffer) (t : Octets) : Buffer :=
  { b with chunks := t :: b.chunks, count := b.count + 1, size := b.size + t.length }

/-- What can be read. -/
def content (b : Buffer) : Octets :=
  match b.chunks with
  | [t] => t
  | chunks => chunks.reverse.flatten

/-- So much is read. -/
def drop (b : Buffer) (n : Nat) : Buffer :=
  if n < b.size then { b with chunks := [b.content.drop n], count := 1, size := b.size - n }
  else { b with chunks := [], count := 0, size := 0 }

/-- So much has been written to a pipe, in so many parts, that nobody is taken to read it
any more. -/
def isAbandoned (b : Buffer) : Bool :=
  b.isPipe && (20000 ≤ b.count || (500 ≤ b.count && 4000000 ≤ b.size))

end Buffer

/-- What an open file leads to. -/
inductive Channel where
  | file (place : Place)
  | buffer (b : Buffer)
  | void

/-- An open file. -/
structure Opened where
  channel : Channel
  offset : Nat
  append : Bool

/-- A parameter with a name. One without a value may have marks. -/
structure Variable where
  value : Option Octets
  exported : Bool
  fixed : Bool

/-- A function, with the line that it begins in. -/
structure Function where
  line : Nat
  body : Command

/-- What a shell has for itself. -/
structure Process where
  number : Nat
  name : Octets
  arguments : List Octets
  parameters : Std.ExtTreeMap Octets Variable compare
  functions : Std.ExtTreeMap Octets Function compare
  flags : List Char
  status : Nat
  descriptors : List (Nat × Nat)
  actions : List (Nat × Octets)
  here : Place
  line : Nat
  caller : Option Octets
  loops : Nat
  calls : Nat
  /-- What the local parameters of the functions that run were before, innermost first. -/
  locals : List (List (Octets × Option Variable))
  /-- A failing command does not end the shell. -/
  tested : Bool
  /-- The shell is no subshell. -/
  isMain : Bool
  lastJob : Option Nat
  /-- The status with which the shell is about to end. -/
  exiting : Option Nat
  /-- The words that stand for others where a command begins. -/
  aliases : List (Octets × Octets)
  /-- The programs that have been found by their names, with their paths. -/
  tracked : List (Octets × Octets)
  /-- How far the letters of an argument have been scanned for options. -/
  scanned : Nat
  /-- When the process is stopped at the latest, in nanoseconds from the start. -/
  deadline : Option Nat

/-- How a shell ends: by itself or by a signal. -/
inductive Finish where
  | exited (status : Nat)
  | killed (signal : Nat)

/-- The status that a shell sees when another one has ended. -/
def Finish.status : Finish → Nat
  | exited status => status
  | killed signal => 128 + signal

/-- A job in the background. -/
structure Job where
  number : Nat
  body : Command
  process : Process

/-- The state of all shells. -/
structure State where
  process : Process
  files : Files
  opened : Array Opened
  documents : List (Nat × Word)
  count : Nat
  jobs : List Job
  ended : List (Nat × Finish)
  /-- The numbers of shells and jobs that have been given away. -/
  numbers : Nat
  /-- The status of the last command that a word has run. -/
  substitution : Option Nat
  /-- The signals that wait for shells that do not run now, with their numbers. -/
  pending : List (Nat × Nat)
  /-- The nanoseconds that have been slept through from the start. -/
  clock : Nat
  /-- Something has been written to an output that is closed. -/
  lost : Bool

/-- The seconds from the beginning of 1970 to the start. -/
def startSeconds : Nat := 1767225600

/-- Why a command does not go on. -/
inductive Stop where
  /-- So many loops are left. -/
  | broken (loops : Nat)
  /-- All but the last of so many loops are left, and that one goes on. -/
  | continued (loops : Nat)
  /-- The function, or the script that is read, is left. -/
  | returned
  /-- The shell has ended. -/
  | exited
  /-- The shell ends because of a mistake. -/
  | failed
  | killed (signal : Nat)
  /-- Nothing can be read yet: other commands have to run first. -/
  | blocked
  /-- The deadline has come. -/
  | expired

/-- What shells do. -/
abbrev Act := ExceptT Stop (StateM State)

/-- The process. -/
def process : Act Process := return (← get).process

/-- A change of the process. -/
def setProcess (f : Process → Process) : Act Unit :=
  modify fun s => { s with process := f s.process }

/-- The status of what comes last. -/
def setStatus (n : Nat) : Act Unit := setProcess fun p => { p with status := n }

/-- The option is on. -/
def hasFlag (flag : Char) : Act Bool := return (← process).flags.contains flag

/-! ## Open files -/

/-- A new open file. -/
def addOpened (o : Opened) : Act Nat := do
  let n := (← get).opened.size
  modify fun s => { s with opened := s.opened.push o }
  return n

/-- The open file that a descriptor leads to. -/
def descriptor? (n : Nat) : Act (Option Nat) := return (← process).descriptors.lookup n

/-- A descriptor leads to an open file, or to none. -/
def setDescriptor (n : Nat) (target : Option Nat) : Act Unit :=
  setProcess fun p =>
    let others := p.descriptors.filter fun d => d.1 != n
    { p with descriptors := match target with
        | some t => (n, t) :: others
        | none => others }

/-- The content of a file. -/
def contentAt (place : Place) : Act Octets := do
  match (← get).files.entry? place with
  | some (.file content _) => return ofBytes content
  | _ => return []

/-- Some octets in the place of those from an offset on. -/
def overlay (content : Octets) (offset : Nat) (t : Octets) : Octets :=
  content.take offset ++ List.replicate (offset - content.length) '\x00' ++ t ++
    content.drop (offset + t.length)

/-- Writes to an open file. -/
def writeTo (index : Nat) (t : Octets) : Act Unit := do
  match (← get).opened[index]? with
  | none => return
  | some o =>
    match o.channel with
    | .void => return
    | .buffer b =>
      if b.isAbandoned then throw (.killed 13)
      modify fun s => { s with
        opened := s.opened.setIfInBounds index { o with channel := .buffer (b.add t) } }
    | .file place =>
      match (← get).files.entry? place with
      | some (.file ..) =>
        let content ← contentAt place
        let offset := if o.append then content.length else o.offset
        modify fun s => { s with
          files := s.files.setContent place (toBytes (overlay content offset t))
          opened := s.opened.setIfInBounds index { o with offset := offset + t.length } }
      | _ => return

/-- Writes to a descriptor, and says whether it leads anywhere. -/
def write (n : Nat) (t : Octets) : Act Bool := do
  match ← descriptor? n with
  | none =>
    if n = 1 ∧ t ≠ [] then modify fun s => { s with lost := true }
    return false
  | some index => writeTo index t; return true

/-- Writes an ASCII text to the output. -/
def print (t : Octets) : Act Unit := do
  let _ ← write 1 t

/-- All that can still be read from an open file. -/
def unread (index : Nat) : Act Octets := do
  match (← get).opened[index]? with
  | none => return []
  | some o =>
    match o.channel with
    | .void => return []
    | .buffer b => return b.content
    | .file place => return (← contentAt place).drop o.offset

/-- So much of what can be read is taken. -/
def consume (index : Nat) (n : Nat) : Act Unit := do
  match (← get).opened[index]? with
  | none => return
  | some o =>
    let o := match o.channel with
      | .void => o
      | .buffer b => { o with channel := .buffer (b.drop n) }
      | .file _ => { o with offset := o.offset + n }
    modify fun s => { s with opened := s.opened.setIfInBounds index o }

/-- A named pipe, as an open file to write to or to read from. Nobody can read before
somebody has written. -/
def openPipe (index : Nat) (writes : Bool) : Act Unit := do
  match (← get).opened[index]? with
  | some ⟨.buffer b, offset, append⟩ =>
    if writes then
      modify fun s => { s with
        opened := s.opened.setIfInBounds index ⟨.buffer (b.add []), offset, append⟩ }
    else if b.count = 0 then throw .blocked
  | _ => return

/-- All that can still be read from a descriptor is taken; `none` if it leads nowhere. -/
def readAll (n : Nat) : Act (Option Octets) := do
  match ← descriptor? n with
  | none => return none
  | some index =>
    let t ← unread index
    consume index t.length
    return some t

/-! ## Complaints -/

/-- What complaints begin with. -/
def complaintStart : Act Octets := do
  let p ← process
  let caller := match p.caller with
    | some name => name ++ lit ": "
    | none => []
  return p.name ++ lit ": " ++ Text.decimal p.line ++ lit ": " ++ caller

/-- A complaint of the shell. -/
def complain (words : Octets) : Act Unit := do
  let _ ← write 2 ((← complaintStart) ++ words ++ ['\n'])

/-- A mistake that ends the shell, if no command catches it. -/
def refuse {α : Type} (words : Octets) : Act α := do
  complain words
  setStatus 2
  throw .failed

/-! ## Parameters -/

/-- The value of a parameter with a name. -/
def valueOf? (name : Octets) : Act (Option Octets) :=
  return (← process).parameters[name]?.bind Variable.value

/-- Sets a parameter. -/
def assign (name value : Octets) : Act Unit := do
  let p ← process
  let old := p.parameters[name]?.getD ⟨none, p.flags.contains 'a', false⟩
  if old.fixed then refuse (name ++ lit ": is read only")
  else
    setProcess fun p => { p with
      parameters := p.parameters.insert name { old with value := some value }
      scanned := if name = lit "OPTIND" then 0 else p.scanned
      tracked := if name = lit "PATH" then [] else p.tracked }

/-- The name of a parameter in front of an equals sign, if there is one. -/
def parameterName (t : Octets) : Act Octets := do
  let name := t.takeWhile (· ≠ '=')
  if isName name then return name else refuse (name ++ lit ": bad variable name")

/-- The value of a special parameter or a parameter with a name. -/
def parameter? (name : Octets) : Act (Option Octets) := do
  let p ← process
  match name with
  | ['?'] => return some (Text.decimal p.status)
  | ['#'] => return some (Text.decimal p.arguments.length)
  | ['$'] => return some (Text.decimal p.number)
  | ['!'] => return p.lastJob.map Text.decimal
  | ['-'] => return some (shownFlags p.flags)
  | ['0'] => return some p.name
  | _ =>
    match natural? name with
    | some n => return if n = 0 then some p.name else p.arguments[n - 1]?
    | none => valueOf? name

/-! ## Files -/

/-- The files, as the shell sees them. -/
def files : Act Files := do
  let s ← get
  return { s.files with here := s.process.here }

/-- Changes the files. -/
def setFiles (files : Files) : Act Unit := modify fun s => { s with files }

/-- A process that is to be as it was before, whatever comes of something. The status is
kept. -/
def restoring {α : Type} (restore : Process → Process → Process) (x : Act α) : Act α := do
  let before ← process
  let put : Act Unit := setProcess fun p => restore before p
  try
    let a ← x
    put
    return a
  catch stop =>
    put
    throw stop

/-!
## Opening files

A path is opened for reading or for writing. The streams of a process are shared; a pipe
with a name is where it is known.
-/

/-- An open file along a path. One that is there may be for others to replace only. -/
def openAt (mode : Mode) (replaces : Bool) (path : Octets) : Act (Except Obstacle Nat) := do
  let files ← files
  let shared (n : Nat) : Act (Except Obstacle Nat) := do
    match ← descriptor? n with
    | some index => return .ok index
    | none => return .error .noDevice
  let pipe (n : Nat) : Act (Except Obstacle Nat) := do
    openPipe n (mode ≠ .read)
    return .ok n
  if mode = .read then
    match files.find (decode path), files.place (decode path) with
    | .ok (.device .void), _ => return .ok (← addOpened ⟨.void, 0, false⟩)
    | .ok (.device (.stream n)), _ => shared n
    | .ok (.device (.pipe n)), _ => pipe n
    | .ok _, .ok place => return .ok (← addOpened ⟨.file place, 0, false⟩)
    | .error obstacle, _ => return .error obstacle
    | _, .error obstacle => return .error obstacle
  else
    match files.writePlace Files.linkLimit files.here (decode path) with
    | .error obstacle => return .error obstacle
    | .ok place =>
      match files.entry? place with
      | some (.device .void) => return .ok (← addOpened ⟨.void, 0, false⟩)
      | some (.device (.stream n)) => shared n
      | some (.device (.pipe n)) => pipe n
      | e =>
        if e.isSome && mode == .write && !replaces then return .error .exists
        else
          if e.isNone || mode == .write || mode == .overwrite then
            setFiles (files.setContent place [])
          return .ok (← addOpened ⟨.file place, 0, mode == .append⟩)

end Equate.Shell
