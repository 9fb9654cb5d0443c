import Equate.Match.Basic
import Equate.Match.Notation
import Equate.Shell.Launching
import Equate.Shell.Records.Table
import Equate.Shell.Records.Token
import Equate.Shell.Records.Value
import Equate.Shell.State

/-!
# The state of a program for records

There are variables, tables, the record with its fields, and streams. What is printed is
kept until there is enough of it, or until somebody else writes. Programs that take an
output run when they are closed, or at the end.
-/
namespace Equate.Shell.Records

/-!
## Programs for records

A program has actions for the start, for each record and for the end. A variable belongs to
the program or, by its position, to the function that runs.
-/

/-- A variable. -/
inductive Name where
  | whole (name : Octets)
  | own (position : Nat)

/-- An operator between two values. -/
inductive Operator where
  | add
  | subtract
  | multiply
  | divide
  | remainder
  | power
  | join
  | less
  | lessOrEqual
  | equal
  | different
  | greater
  | greaterOrEqual
  deriving DecidableEq

/-- Where a line is read from. -/
inductive Supply (α : Type) where
  | records
  | file (path : α)
  | command (words : α)

/-- An expression. -/
inductive Expr where
  | number (x : Float)
  | text (t : Octets)
  /-- The record fits an expression. -/
  | pattern (e : Match)
  | name (v : Name)
  | element (v : Name) (subscripts : List Expr)
  | field (e : Expr)
  | assign (operator : Option Operator) (target value : Expr)
  /-- A value goes up or down by one; what counts is the one from before or from
  afterwards. -/
  | step (target : Expr) (up before : Bool)
  | negative (e : Expr)
  | positive (e : Expr)
  | negation (e : Expr)
  | operation (operator : Operator) (a b : Expr)
  | both (a b : Expr)
  | either (a b : Expr)
  | choose (condition a b : Expr)
  | fits (negated : Bool) (subject pattern : Expr)
  | inside (subscripts : List Expr) (v : Name)
  | call (function : Octets) (arguments : List Expr)
  | builtin (function : String) (arguments : List Expr)
  | line (supply : Supply Expr) (target : Option Expr)
  | group (e : Expr)

/-- What takes an output. -/
inductive Outlet where
  | file (path : Expr)
  | append (path : Expr)
  | command (words : Expr)

/-- A statement. -/
inductive Statement where
  | nothing
  | block (body : List Statement)
  | value (e : Expr)
  | print (arguments : List Expr) (outlet : Option Outlet)
  | format (arguments : List Expr) (outlet : Option Outlet)
  | choose (condition : Expr) (a : Statement) (b : Option Statement)
  | loop (condition : Expr) (body : Statement)
  | loopOnce (body : Statement) (condition : Expr)
  | count (first : Statement) (condition : Option Expr) (next body : Statement)
  | each (v table : Name) (body : Statement)
  | leave
  | continue
  | next
  | nextFile
  | exit (status : Option Expr)
  | return (value : Option Expr)
  | delete (v : Name) (subscripts : List Expr)
  | clear (v : Name)

/-- What chooses a record. -/
inductive Choice where
  | always
  | condition (e : Expr)
  /-- From one record to another. The ranges of a program are numbered. -/
  | range (number : Nat) (first last : Expr)

/-- A function. -/
structure Definition where
  name : Octets
  count : Nat
  body : Statement

/-- A program. -/
structure Program where
  starts : List Statement
  rules : List (Choice × Statement)
  ends : List Statement
  functions : List Definition

/-! ## The state -/

/-- What a variable holds. One that has not been used may turn into a table. -/
inductive Slot where
  | unused (table : Option Nat)
  | value (d : Datum)
  | table (number : Nat)

/-- A stream for an output: a file or a program, with what has been printed to it. -/
structure Outgoing where
  name : Octets
  isCommand : Bool
  /-- The open file. -/
  index : Nat

/-- A stream for an input, with what is left of it. -/
structure Incoming where
  name : Octets
  isCommand : Bool
  rest : Octets
  status : Nat

/-- What the program works for. -/
structure Setting where
  run : Command → Act Unit
  /-- The name of the program. -/
  name : Octets
  functions : List Definition

/-- The state. -/
structure Machine where
  wholes : Std.ExtTreeMap Octets Slot compare
  owns : Array Slot
  tables : Std.ExtTreeMap Nat Table compare
  /-- How many tables have been made. -/
  made : Nat
  record : Octets
  fields : Option (Array Datum)
  /-- What separates the fields of the record. -/
  separator : Octets
  outgoing : List Outgoing
  incoming : List Incoming
  /-- What is left of the file that the records come from. -/
  current : Option Octets
  /-- The number of the next argument. -/
  argument : Nat
  /-- A file was among the arguments. -/
  anyFile : Bool
  ranges : List Nat
  /-- What has been printed and not been written, the last first, and how much that is. -/
  held : List Octets
  size : Nat
  seed : Float
  random : Nat
  patterns : Std.ExtTreeMap Octets Match compare
  status : Nat

/-- Why a statement does not go on. -/
inductive Leaving where
  | loop
  | round
  | record
  | file
  | program
  | function (d : Datum)
  | fatal

/-- Running. -/
abbrev Working := ExceptT Leaving (StateT Machine Act)

/-! ## Variables -/

/-- The variable of a name. -/
def slot (v : Name) : Working Slot := do
  let m ← get
  match v with
  | .whole name => return (m.wholes[name]?).getD (.unused none)
  | .own n => return (m.owns[n]?).getD (.unused none)

/-- The variable of a name changes. -/
def setSlot (v : Name) (s : Slot) : Working Unit :=
  modify fun m =>
    match v with
    | .whole name => { m with wholes := m.wholes.insert name s }
    | .own n => { m with owns := m.owns.setIfInBounds n s }

/-- The text of a variable of the program. -/
def textOf (name : String) : Working Octets := do
  match (← get).wholes[lit name]? with
  | some (.value d) => return d.toText (lit "%.6g")
  | _ => return []

/-- A variable of the program is set to a number. -/
def setNumber (name : String) (x : Float) : Working Unit := setSlot (.whole (lit name)) (.value (.number x))

/-- The number of a variable of the program. -/
def numberOf (name : String) : Working Float := do
  match (← get).wholes[lit name]? with
  | some (.value d) => return d.toNumber
  | _ => return 0

/-- The format for numbers in texts. -/
def converting : Working Octets := textOf "CONVFMT"

/-- Writes to the complaints. -/
def complainAbout (t : Octets) : Working Unit := do
  let _ ← (write 2 t : Act Bool)

/-- A mistake that ends the program. -/
def fatal {α : Type} (o : Setting) (words : Octets) : Working α := do
  complainAbout (o.name ++ lit ": " ++ words ++ ['\n'])
  modify fun m => { m with status := 2 }
  throw .fatal

/-- A mistake that is told with the place in the input. -/
def fatalHere {α : Type} (o : Setting) (words : Octets) : Working α := do
  fatal o (lit "run time error: " ++ words ++ lit "\n\tFILENAME=\"" ++ (← textOf "FILENAME") ++
    lit "\" FNR=" ++ integerText (printedInteger (← numberOf "FNR")) ++ lit " NR=" ++
    integerText (printedInteger (← numberOf "NR")))

/-- The number of the table that a variable holds; one that has not been used holds it from
now on. -/
def tableOf (o : Setting) (v : Name) : Working Nat := do
  match ← slot v with
  | .table n => return n
  | .unused (some n) =>
    setSlot v (.table n)
    return n
  | .unused none =>
    let n := (← get).made
    modify fun m => { m with made := n + 1 }
    setSlot v (.table n)
    return n
  | .value _ => fatal o (lit "line 1: illegal reference to variable")

/-- A table. -/
def table (n : Nat) : Working Table := return ((← get).tables[n]?).getD .empty

/-- A table changes. -/
def setTable (n : Nat) (t : Table) : Working Unit :=
  modify fun m => { m with tables := m.tables.insert n t }

/-! ## Patterns -/

/-- What is wrong with a regular expression, in the words of this language. -/
def patternWords (words : Text) : Octets :=
  if words = lit "Unmatched ( or \\(" then lit "missing ')'"
  else if words = lit "Invalid preceding regular expression" then lit "missing operand"
  else if words = lit "Repeated start" then lit "syntax error ^* or ^+"
  else if (lit "Invalid content").isPrefixOf words then lit "bad interval expression"
  else lit "bad class -- [], [^] or ["

/-- The regular expression of a text. -/
def patternOf (o : Setting) (t : Octets) : Working Match := do
  match (← get).patterns[t]? with
  | some e => return e
  | none =>
    match Match.ofText ⟨true, true, false, true⟩ t with
    | .ok e =>
      modify fun m => { m with patterns := m.patterns.insert t e }
      return e
    | .error words =>
      fatalHere o (lit "regular expression compile failed (" ++ patternWords words ++ lit ")\n" ++ t)

/-- A text as the subject of a search. -/
def searched (t : Octets) : Match.Subject := ⟨t.toArray, false, isNameChar⟩

/-! ## Records and fields -/

/-- A blank between fields. -/
def isGap (c : Char) : Bool := c == ' ' || c == '\t' || c == '\n'

/-- The parts of a text between blanks. -/
def words : Nat → Octets → List Octets
  | 0, _ => []
  | fuel + 1, t =>
    let t := t.dropWhile isGap
    if t = [] then []
    else
      let w := t.takeWhile fun c => !isGap c
      w :: words fuel (t.drop w.length)

/-- The parts of a text between matches that are not empty. -/
def between (e : Match) (t : Octets) : List Octets :=
  let s := searched t
  let found := (e.findAll s true).filter fun f => f.first < f.last
  let (parts, last) := found.foldl (fun ((parts, i) : List Octets × Nat) f =>
    (s.slice i f.first :: parts, f.last)) ([], 0)
  (s.slice last s.text.size :: parts).reverse

/-- The parts of a text by a separator: blanks, a character, nothing or an expression. -/
def parts (o : Setting) (separator t : Octets) : Working (List Octets) := do
  if t = [] then return []
  else
    match separator with
    | [' '] => return words (t.length + 1) t
    | [] => return t.map fun c => [c]
    | [c] => return Text.splitOn c t
    | e => return between (← patternOf o e) t

/-- The record is this text. -/
def setRecord (t : Octets) : Working Unit := do
  let separator ← textOf "FS"
  modify fun m => { m with record := t, fields := none, separator }

/-- The fields of the record. -/
def fields (o : Setting) : Working (Array Datum) := do
  let m ← get
  match m.fields with
  | some fields => return fields
  | none =>
    let separator := m.separator
    let paragraphs := (← textOf "RS") = []
    let found ← if paragraphs ∧ separator ≠ [' '] then do
        let lines := Text.splitOn '\n' m.record
        let all ← lines.mapM fun line => do
          let found ← parts o separator line
          return if found.isEmpty then [[]] else found
        pure all.flatten
      else parts o separator m.record
    let fields := (found.map Datum.input).toArray
    modify fun m => { m with fields := some fields }
    return fields

/-- The record is made of these fields. -/
def setFields (fields : Array Datum) : Working Unit := do
  let between ← textOf "OFS"
  let format ← converting
  modify fun m => { m with
    fields := some fields
    record := Text.joinWith between (fields.toList.map fun d => d.toText format) }

/-- So many fields, of which new ones are empty. -/
def resized (n : Nat) (fields : Array Datum) : Array Datum :=
  if n ≤ fields.size then fields.extract 0 n
  else fields ++ Array.replicate (n - fields.size) (.input [])

/-- A record at the front of an input, and what is left of that. -/
def recordFront (o : Setting) (t : Octets) : Working (Option (Octets × Octets)) := do
  if t = [] then return none
  else
    match ← textOf "RS" with
    | [c] =>
      let record := t.takeWhile (· ≠ c)
      return some (record, t.drop (record.length + 1))
    | [] =>
      let t := t.dropWhile (· = '\n')
      if t = [] then return none
      else
        let e ← patternOf o (lit "\n\n+")
        let s := searched t
        match e.search? s true 0 with
        | some f => return some (s.slice 0 f.first, t.drop f.last)
        | none => return some (if t.getLast? = some '\n' then t.dropLast else t, [])
    | separator =>
      let e ← patternOf o separator
      let s := searched t
      match e.search? s true 0 with
      | some f =>
        if f.first < f.last then return some (s.slice 0 f.first, t.drop f.last)
        else return some (t, [])
      | none => return some (t, [])

/-! ## Output -/

/-- What has been printed is written. -/
def flush : Working Unit := do
  let m ← get
  let t := m.held.reverse.flatten
  if t ≠ [] then
    modify fun m => { m with held := [], size := 0 }
    (print t : Act Unit)

/-- How much is kept before it is written. -/
def holdLimit : Nat := 4096

/-- Prints to the output. Whole blocks are written when there is more than one. -/
def hold (t : Octets) : Working Unit := do
  modify fun m => { m with held := t :: m.held, size := m.size + t.length }
  let m ← get
  if holdLimit < m.size then
    let all := m.held.reverse.flatten
    let whole := m.size / holdLimit * holdLimit
    modify fun m => { m with held := [all.drop whole], size := m.size - whole }
    (print (all.take whole) : Act Unit)

/-- A command line for the shell. -/
def commandWords (t : Octets) : List Octets := [lit "/bin/sh", lit "-c", t]

/-- The status of a program that has been waited for. -/
def waited : Finish → Nat
  | .exited status => status
  | .killed signal => 256 + signal

/-- A command runs, with an input of its own if there is one. -/
def runCommand (o : Setting) (t : Octets) (input : Option Octets) : Working Nat := do
  flush
  let body : Act Nat := do
    restoring (fun before p => { p with descriptors := before.descriptors }) do
      match input with
      | some content =>
        let index ← addOpened ⟨.buffer (.holding content), 0, false⟩
        setDescriptor 0 (some index)
      | none => pure ()
      return waited (← launch o.run (commandWords t))
  body

/-- What a command prints, and its status. -/
def outputOfCommand (o : Setting) (t : Octets) : Working (Octets × Nat) := do
  flush
  let body : Act (Octets × Nat) := do
    restoring (fun before p => { p with descriptors := before.descriptors }) do
      let index ← addOpened ⟨.buffer (.empty false), 0, true⟩
      setDescriptor 1 (some index)
      let status := waited (← launch o.run (commandWords t))
      return (← unread index, status)
  body

/-- A stream is closed: a program that takes an output runs then. -/
def closeOutgoing (o : Setting) (s : Outgoing) : Working Nat := do
  if s.isCommand then
    let content ← (unread s.index : Act Octets)
    runCommand o s.name (some content)
  else return 0

/-- Prints to a file or a program, by its name. -/
def printTo (o : Setting) (mode : Mode) (isCommand : Bool) (name t : Octets) : Working Unit := do
  if !isCommand ∧ (name = lit "/dev/stdout" ∨ name = ['-']) then hold t
  else if !isCommand ∧ name = lit "/dev/stderr" then complainAbout t
  else
    let m ← get
    match m.outgoing.find? fun s => s.name == name && s.isCommand == isCommand with
    | some s =>
      modify fun m => { m with
        outgoing := s :: m.outgoing.filter fun other => other.index != s.index }
      (writeTo s.index t : Act Unit)
    | none =>
      let index ← if isCommand then do
          flush
          (addOpened ⟨.buffer (.empty false), 0, true⟩ : Act Nat)
        else
          match ← (openAt mode true name : Act (Except Obstacle Nat)) with
          | .ok index => pure index
          | .error obstacle =>
            fatal o (lit "cannot open \"" ++ name ++ lit "\" for output (" ++ obstacle.words ++ lit ")")
      modify fun m => { m with outgoing := ⟨name, isCommand, index⟩ :: m.outgoing }
      (writeTo index t : Act Unit)

/-- A stream is closed by its name. The status is negative if there is none. -/
def closeStream (o : Setting) (name : Octets) : Working Float := do
  let m ← get
  match m.outgoing.find? fun s => s.name == name with
  | some s =>
    modify fun m => { m with outgoing := m.outgoing.filter fun other => other.index != s.index }
    return Float.ofNat (← closeOutgoing o s)
  | none =>
    match m.incoming.find? fun s => s.name == name with
    | some s =>
      modify fun m => { m with incoming := m.incoming.filter fun other => other.name != name }
      return Float.ofNat s.status
    | none => return -1

/-! ## Input -/

/-- The content of a file that records come from. -/
def contentOfInput (o : Setting) (path : Octets) : Working Octets := do
  match ← (Utility.contentOf (if path = lit "/dev/stdin" then ['-'] else path) :
      Act (Except Obstacle Octets)) with
  | .ok content => return content
  | .error .isDirectory => fatal o (lit "read error (Is a directory)")
  | .error .closed => return []
  | .error obstacle => fatal o (lit "cannot open \"" ++ path ++ lit "\" (" ++ obstacle.words ++ lit ")")

/-- The assignment that an argument is. -/
def assignment? (t : Octets) : Option (Octets × Octets) := do
  let (name, value) ← Text.splitAt? '=' t
  if isName name then some (name, Token.unescape (value.length + 1) value) else none

/-- A variable of the program gets a value from outside. -/
def setFromOutside (name value : Octets) : Working Unit :=
  setSlot (.whole name) (.value (.input value))

/-- The next file among the arguments, over so many at most. -/
def nextFile (o : Setting) : Nat → Working (Option Octets)
  | 0 => return none
  | fuel + 1 => do
    let m ← get
    let count := printedInteger (← numberOf "ARGC")
    if count ≤ m.argument then
      if m.anyFile then return none
      else
        modify fun m => { m with anyFile := true }
        return some (← contentOfInput o ['-'])
    else
      modify fun m => { m with argument := m.argument + 1 }
      let n ← tableOf o (.whole (lit "ARGV"))
      let key := Table.Key.number m.argument
      let t := (← table n).get key
      let t := t.toText (← converting)
      if t = [] then nextFile o fuel
      else
        match assignment? t with
        | some (name, value) =>
          setFromOutside name value
          nextFile o fuel
        | none =>
          modify fun m => { m with anyFile := true }
          let content ← contentOfInput o t
          setFromOutside (lit "FILENAME") t
          setNumber "FNR" 0
          return some content

/-- The next record of the input, over so many files at most. -/
def nextRecord (o : Setting) : Nat → Working (Option Octets)
  | 0 => return none
  | fuel + 1 => do
    let content ← match (← get).current with
      | some content => pure (some content)
      | none => nextFile o 100000
    match content with
    | none => return none
    | some content =>
      match ← recordFront o content with
      | some (record, rest) =>
        modify fun m => { m with current := some rest }
        return some record
      | none =>
        modify fun m => { m with current := none }
        nextRecord o fuel

/-- One record more has been read. -/
def countRecord : Working Unit := do
  setNumber "NR" ((← numberOf "NR") + 1)
  setNumber "FNR" ((← numberOf "FNR") + 1)

/-- The next line of a file or of what a command prints. -/
def lineFrom (o : Setting) (isCommand : Bool) (name : Octets) : Working (Option (Option Octets)) := do
  let m ← get
  let found ← match m.incoming.find? fun s => s.name == name && s.isCommand == isCommand with
    | some s => pure (some s)
    | none =>
      if isCommand then
        let (content, status) ← outputOfCommand o name
        pure (some ⟨name, true, content, status⟩)
      else
        match ← (Utility.contentOf (if name = lit "/dev/stdin" then ['-'] else name) :
            Act (Except Obstacle Octets)) with
        | .ok content => pure (some ⟨name, false, content, 0⟩)
        | .error .isDirectory => fatal o (lit "read error (Is a directory)")
        | .error _ => pure none
  match found with
  | none => return none
  | some s =>
    let keep (rest : Octets) : Working Unit := modify fun m => { m with
      incoming := { s with rest } :: m.incoming.filter fun other =>
        !(other.name == name && other.isCommand == isCommand) }
    match ← recordFront o s.rest with
    | some (record, rest) =>
      keep rest
      return some (some record)
    | none =>
      keep []
      return some none

end Equate.Shell.Records
