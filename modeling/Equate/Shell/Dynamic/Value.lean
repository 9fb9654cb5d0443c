import Equate.Match.Basic
import Equate.Shell.State
import Equate.Shell.Dynamic.Tree

/-!
# Values of scripts

What can change stands in a store of objects, and a value knows the number of its object.
Running a script keeps what is left to be done as a list of tasks, so that a function that
yields can be left and entered again.
-/
namespace Equate.Shell.Dynamic

/-- A value. -/
inductive Value where
  | none
  | bool (b : Bool)
  | int (n : Int)
  | float (x : Float)
  | text (t : Text)
  | bytes (t : Octets)
  | ellipsis
  | notImplemented
  | tuple (items : List Value)
  | range (first last step : Int)
  | slice (first last step : Value)
  /-- A module that scripts find. -/
  | module (name : String)
  /-- A type that scripts find. -/
  | type (name : String)
  /-- A function that scripts find. -/
  | builtin (name : String)
  /-- Such a function as an attribute of a value. -/
  | bound (name : String) (self : Value)
  /-- A function as an attribute of a value. -/
  | method (function self : Value)
  /-- A value as the classes behind one of its own see it. -/
  | above (owner self : Value)
  /-- What an object holds in the place that is written as an attribute. -/
  | view (kind : String) (self : Value)
  | object (number : Nat)
  deriving Inhabited

/-- Values by keys, in the order in which the keys came. -/
structure Table where
  entries : Std.ExtTreeMap Nat (Value × Value) compare
  places : Std.ExtTreeMap Text Nat compare
  next : Nat

namespace Table

/-- A table without entries. -/
def empty : Table := ⟨Std.ExtTreeMap.empty, Std.ExtTreeMap.empty, 0⟩

/-- How many entries there are. -/
def size (t : Table) : Nat := t.entries.size

/-- The entry of a key. -/
def entry? (t : Table) (key : Text) : Option (Value × Value) :=
  t.places[key]?.bind fun n => t.entries[n]?

/-- The value of a key. -/
def value? (t : Table) (key : Text) : Option Value := (t.entry? key).map Prod.snd

/-- There is an entry for a key. -/
def has (t : Table) (key : Text) : Bool := t.places.contains key

/-- A key gets a value. A key that is known stays as it is. -/
def put (t : Table) (key : Text) (k v : Value) : Table :=
  match t.places[key]? with
  | some n =>
    let old := (t.entries[n]?.map Prod.fst).getD k
    { t with entries := t.entries.insert n (old, v) }
  | none =>
    { entries := t.entries.insert t.next (k, v)
      places := t.places.insert key t.next
      next := t.next + 1 }

/-- The table without a key. -/
def drop (t : Table) (key : Text) : Table :=
  match t.places[key]? with
  | some n => { t with entries := t.entries.erase n, places := t.places.erase key }
  | none => t

/-- The entries in their order. -/
def toList (t : Table) : List (Value × Value) := t.entries.toList.map Prod.snd

/-- The keys in their order. -/
def keys (t : Table) : List Value := t.toList.map Prod.fst

/-- The values in the order of their keys. -/
def values (t : Table) : List Value := t.toList.map Prod.snd

/-- The keys as they are told apart, in their order. -/
def marks (t : Table) : List Text :=
  (t.places.toList.mergeSort fun a b => a.2 ≤ b.2).map Prod.fst

end Table

/-- What an iterator goes through. -/
inductive Supply where
  | values (rest : List Value)
  /-- A list, which may change on the way. -/
  | list (number index : Nat)
  /-- The keys, values or entries of a table, whose size must not change. -/
  | table (number size : Nat) (rest : List Value)
  | range (next last step : Int)
  | count (next step : Value)
  | again (v : Value)
  | cycle (rest all : List Value)
  | map (f : Value) (sources : List Value)
  | filter (f source : Value) (wanted : Bool)
  | zip (sources : List Value)
  | enumerate (next : Int) (source : Value)
  | chain (current : Option Value) (sources : Value)
  /-- So many are left out first, and after each that is taken. -/
  | part (source : Value) (skip : Nat) (left : Option Nat) (step : Nat)
  | takeWhile (f source : Value)
  | dropWhile (f source : Value)
  | call (f stop : Value)
  | indexed (v : Value) (index : Int)

/-- Why a list of tasks is left. -/
inductive Leaving where
  | raised (e : Value) (trace : List (String × Nat))
  | returned (v : Value)
  | broken
  | continued

/-- Something that is left to be done. -/
inductive Task where
  | block (statements : List Statement)
  /-- A loop over values, and one under a condition, with their lines. -/
  | each (line : Nat) (iterator : Value) (target : Expr) (body otherwise : List Statement)
  | loop (line : Nat) (condition : Expr) (body otherwise : List Statement)
  /-- The handlers of what runs. -/
  | guarded (handlers : List Handler) (otherwise always : List Statement)
  | always (statements : List Statement)
  /-- An exception is being handled, under a name. -/
  | handling (name : Option String)
  /-- What was being done before statements that always run. -/
  | resumed (l : Leaving)
  /-- What has been entered is left. -/
  | leave (manager : Value)
  /-- What is sent is assigned. -/
  | receive (targets : List Expr)
  /-- All that an iterator has is yielded; what it returns is assigned. -/
  | forward (iterator : Value) (targets : List Expr)

/-- A function of a script. -/
structure Definition where
  name : String
  parameters : List Parameter
  defaults : List (String × Value)
  body : List Statement
  scope : Nat
  yields : Bool
  /-- The names that it sets. -/
  locals : List String
  globals : List String
  outers : List String
  /-- The class that it belongs to. -/
  owner : Option Value

/-- Names with their values. -/
structure Scope where
  named : Std.ExtTreeMap String Value compare
  /-- The names in their order, the last first. -/
  order : List String
  parent : Option Nat
  isClass : Bool
  isFunction : Bool
  locals : List String
  globals : List String
  outers : List String

/-- A class of a script. -/
structure Kind where
  name : String
  bases : List Value
  /-- The class and all that are above it, in the order in which they are asked. -/
  lineage : List Value
  fields : List (String × Value)

/-- An open file. -/
structure File where
  path : Text
  mode : String
  index : Nat
  binary : Bool
  closed : Bool

/-- A regular expression, with the names of its groups and how many there are. -/
structure Searching where
  source : Text
  expression : Match
  folded : Bool
  names : List (Text × Nat)
  count : Nat

/-- What a store holds. -/
inductive Object where
  | list (items : Array Value)
  | deque (items : Array Value) (most : Option Nat)
  /-- A table, and what makes values for missing keys. -/
  | dict (t : Table) (kind : String) (make : Value)
  | set (t : Table) (frozen : Bool)
  | function (d : Definition)
  | kind (k : Kind)
  /-- An instance of a class. One of a type that scripts find has a value of its own. -/
  | made (type : Value) (fields : List (String × Value)) (core : Option Value)
  | iterator (s : Supply)
  | generator (name : String) (tasks : List Task) (scope : Nat) (running : Bool)
  | scope (s : Scope)
  | file (f : File)
  /-- A text that is written and read like a file. -/
  | buffer (content : Text) (position : Nat) (binary : Bool)
  | pattern (p : Searching)
  | found (p : Searching) (text : Array Char) (f : Match.Found)
  | property (get set : Value)
  /-- Something in a wrapping that says how it is asked for. -/
  | wrapped (kind : String) (v : Value)
  | prepared (f : Value) (arguments : List Value) (named : List (String × Value))

/-- The state. -/
structure Machine where
  store : Array Object
  /-- What has been printed and not been written, the last first, and how much that is. -/
  held : List Octets
  size : Nat
  /-- What is left of the input. -/
  input : Option Octets
  /-- The function that runs, and its line. -/
  function : String
  line : Nat
  /-- The functions that wait for it, innermost first. -/
  callers : List (String × Nat)
  depth : Nat
  /-- How many steps it can still do. -/
  steps : Nat
  /-- The exceptions that are being handled, innermost first. -/
  handled : List (Value × List (String × Nat))
  /-- The modules of scripts, by their names. -/
  modules : List (String × Value)
  /-- What has been said about modules. -/
  settings : List (String × Value)
  /-- What the last function that yields has returned. -/
  answer : Value
  random : Array UInt32
  drawn : Nat
  atExit : List (Value × List Value × List (String × Value))

/-- Why nothing goes on. -/
inductive Signal where
  | raised (e : Value) (trace : List (String × Nat))
  | ended (status : Nat)

/-- Running. -/
abbrev Running := ExceptT Signal (StateT Machine Act)

/-- How things are done that depend on each other. -/
structure Ways where
  /-- Runs commands of the shell. -/
  run : Command → Act Unit
  call : Value → List Value → List (String × Value) → Running Value
  /-- The next value of an iterator. -/
  next : Value → Running (Option Value)
  evaluate : Nat → Expr → Running Value
  /-- An attribute of a value. -/
  member : Value → String → Running Value
  /-- Runs statements with their names. -/
  execute : Nat → List Statement → Running Unit
  /-- A function that yields goes on with what is sent, or with an exception that is raised. -/
  resume : Nat → (raised : Bool) → Value → Running (Option Value)
  /-- The path of the script, as it is shown. -/
  path : Text
  /-- The lines of the script, if they can be shown. -/
  lines : Array Text

end Equate.Shell.Dynamic
