import Equate.Shell.Dynamic.Value
import Equate.Shell.State
import Equate.Shell.Utility.Basic

/-!
# The state of a script

What can change is looked up and replaced by its number. An exception is an instance of its
type like any other; it is raised together with the functions that run.
-/
namespace Equate.Shell.Dynamic

/-! ## The store -/

/-- A new object. -/
def make (x : Object) : Running Value := do
  let n := (← get).store.size
  modify fun m => { m with store := m.store.push x }
  return .object n

/-- An object is replaced. -/
def setObject (n : Nat) (x : Object) : Running Unit :=
  modify fun m => { m with store := m.store.setIfInBounds n x }

/-- The object of a number. -/
def objectAt? (n : Nat) : Running (Option Object) := return (← get).store[n]?

/-- The object that a value leads to. -/
def objectOf? (v : Value) : Running (Option Object) :=
  match v with
  | .object n => objectAt? n
  | _ => return none

/-- A list. -/
def makeList (items : List Value) : Running Value := make (.list items.toArray)

/-- A table. -/
def makeDict (t : Table) : Running Value := make (.dict t "dict" .none)

/-- An iterator. -/
def makeIterator (s : Supply) : Running Value := make (.iterator s)

/-! ## Types -/

/-- The types with the types above them, where that is not `object`. -/
def parents : List (String × String) :=
  [("bool", "int"), ("defaultdict", "dict"), ("OrderedDict", "dict"), ("Counter", "dict"),
    ("Exception", "BaseException"), ("SystemExit", "BaseException"),
    ("KeyboardInterrupt", "BaseException"), ("GeneratorExit", "BaseException"),
    ("ArithmeticError", "Exception"), ("ZeroDivisionError", "ArithmeticError"),
    ("OverflowError", "ArithmeticError"), ("FloatingPointError", "ArithmeticError"),
    ("AssertionError", "Exception"), ("AttributeError", "Exception"), ("BufferError", "Exception"),
    ("EOFError", "Exception"), ("ImportError", "Exception"), ("ModuleNotFoundError", "ImportError"),
    ("LookupError", "Exception"), ("IndexError", "LookupError"), ("KeyError", "LookupError"),
    ("MemoryError", "Exception"), ("NameError", "Exception"), ("UnboundLocalError", "NameError"),
    ("OSError", "Exception"), ("BlockingIOError", "OSError"), ("ChildProcessError", "OSError"),
    ("ConnectionError", "OSError"), ("BrokenPipeError", "ConnectionError"),
    ("FileExistsError", "OSError"), ("FileNotFoundError", "OSError"), ("InterruptedError", "OSError"),
    ("IsADirectoryError", "OSError"), ("NotADirectoryError", "OSError"), ("PermissionError", "OSError"),
    ("ProcessLookupError", "OSError"), ("TimeoutError", "OSError"), ("ReferenceError", "Exception"),
    ("RuntimeError", "Exception"), ("NotImplementedError", "RuntimeError"),
    ("RecursionError", "RuntimeError"), ("StopIteration", "Exception"), ("SyntaxError", "Exception"),
    ("IndentationError", "SyntaxError"), ("TypeError", "Exception"), ("ValueError", "Exception"),
    ("UnicodeError", "ValueError"), ("UnicodeDecodeError", "UnicodeError"),
    ("UnicodeEncodeError", "UnicodeError"), ("Warning", "Exception"), ("UserWarning", "Warning"),
    ("DeprecationWarning", "Warning"), ("RuntimeWarning", "Warning"),
    ("json.decoder.JSONDecodeError", "ValueError"), ("re.error", "Exception"),
    ("subprocess.SubprocessError", "Exception"),
    ("subprocess.CalledProcessError", "subprocess.SubprocessError"),
    ("subprocess.TimeoutExpired", "subprocess.SubprocessError"),
    ("statistics.StatisticsError", "ValueError"), ("decimal.InvalidOperation", "ArithmeticError"),
    ("struct.error", "Exception"), ("binascii.Error", "ValueError"), ("queue.Empty", "Exception"),
    ("dataclasses.FrozenInstanceError", "AttributeError"), ("io.UnsupportedOperation", "OSError"),
    ("os.DirEntry", "pathlib.PosixPath")]

/-- The types that scripts find by their names. -/
def typeNames : List String :=
  ["object", "type", "int", "float", "str", "bytes", "bool", "list", "tuple", "dict", "set",
    "frozenset", "range", "slice", "property", "staticmethod", "classmethod", "super", "enumerate",
    "zip", "map", "filter", "reversed", "bytearray", "memoryview", "BaseException", "complex"]

/-- A type and all above it. -/
def lineageOfName : Nat → String → List String
  | 0, _ => ["object"]
  | fuel + 1, name =>
    if name = "object" then ["object"]
    else if name = "IntEnum" ∨ name = "IntFlag" then [name, "int", "Enum", "object"]
    else if name = "StrEnum" then [name, "str", "Enum", "object"]
    else name :: lineageOfName fuel ((parents.lookup name).getD "object")

/-- The type is one of exceptions. -/
def isExceptionName (name : String) : Bool := (lineageOfName 8 name).contains "BaseException"

/-- The part of a name behind its last point. -/
def shortName (name : String) : String :=
  String.ofList ((name.toList.reverse.takeWhile (· ≠ '.')).reverse)

/-- What the type of an iterator is called. -/
def Supply.typeName : Supply → String
  | .values _ => "iterator"
  | .list .. => "list_iterator"
  | .table .. => "dict_keyiterator"
  | .range .. => "range_iterator"
  | .count .. => "itertools.count"
  | .again _ => "itertools.repeat"
  | .cycle .. => "itertools.cycle"
  | .map .. => "map"
  | .filter .. => "filter"
  | .zip _ => "zip"
  | .enumerate .. => "enumerate"
  | .chain .. => "itertools.chain"
  | .part .. => "itertools.islice"
  | .takeWhile .. => "itertools.takewhile"
  | .dropWhile .. => "itertools.dropwhile"
  | .call .. => "callable_iterator"
  | .indexed .. => "iterator"

/-- The type of a value. -/
def typeOf (v : Value) : Running Value := do
  let named (name : String) : Running Value := return .type name
  match v with
  | .none => named "NoneType"
  | .bool _ => named "bool"
  | .int _ => named "int"
  | .float _ => named "float"
  | .text _ => named "str"
  | .bytes _ => named "bytes"
  | .ellipsis => named "ellipsis"
  | .notImplemented => named "NotImplementedType"
  | .tuple _ => named "tuple"
  | .range .. => named "range"
  | .slice .. => named "slice"
  | .module _ => named "module"
  | .type _ => named "type"
  | .builtin _ => named "builtin_function_or_method"
  | .bound .. => named "builtin_function_or_method"
  | .method .. => named "method"
  | .above .. => named "super"
  | .view kind _ => named ("dict_" ++ kind)
  | .object n =>
    match ← objectAt? n with
    | none => named "object"
    | some x =>
      match x with
      | .list _ => named "list"
      | .deque .. => named "collections.deque"
      | .dict _ kind _ => named kind
      | .set _ frozen => named (if frozen then "frozenset" else "set")
      | .function _ => named "function"
      | .kind _ => named "type"
      | .made type _ _ => return type
      | .iterator s => named s.typeName
      | .generator .. => named "generator"
      | .scope _ => named "module"
      | .file f => named (if f.binary then "_io.BufferedReader" else "_io.TextIOWrapper")
      | .buffer _ _ binary => named (if binary then "_io.BytesIO" else "_io.StringIO")
      | .pattern _ => named "re.Pattern"
      | .found .. => named "re.Match"
      | .property .. => named "property"
      | .wrapped kind _ => named kind
      | .prepared .. => named "functools.partial"

/-- The class that a type is, if it is one of a script. -/
def kindOf? (type : Value) : Running (Option Kind) := do
  match ← objectOf? type with
  | some (.kind k) => return some k
  | _ => return none

/-- The name of a type. -/
def nameOfType (type : Value) : Running String := do
  match type with
  | .type name => return name
  | type => return ((← kindOf? type).map Kind.name).getD "type"

/-- The name of the type of a value. -/
def typeName (v : Value) : Running String := do nameOfType (← typeOf v)

/-- A type and all above it, in the order in which they are asked. -/
def lineage (type : Value) : Running (List Value) := do
  match type with
  | .type name => return (lineageOfName 8 name).map Value.type
  | type => return ((← kindOf? type).map Kind.lineage).getD [type, .type "object"]

/-- Two values are the same one. -/
def isSame : Value → Value → Bool
  | .none, .none => true
  | .bool a, .bool b => a == b
  | .int a, .int b => a == b
  | .text a, .text b => a == b
  | .bytes a, .bytes b => a == b
  | .ellipsis, .ellipsis => true
  | .notImplemented, .notImplemented => true
  | .module a, .module b => a == b
  | .type a, .type b => a == b
  | .builtin a, .builtin b => a == b
  | .object a, .object b => a == b
  | .float a, .float b => a.toBits == b.toBits
  | .tuple [], .tuple [] => true
  | _, _ => false

/-- A type is another one or below it. -/
def isBelow (type above : Value) : Running Bool := do
  return (← lineage type).any (isSame above)

/-- A value is one of a type that scripts find by its name. -/
def isOfType (v : Value) (name : String) : Running Bool := do isBelow (← typeOf v) (.type name)

/-! ## Exceptions -/

/-- The functions that run, innermost first. -/
def trace : Running (List (String × Nat)) := do
  let m ← get
  return (m.function, m.line) :: m.callers

/-- An exception. -/
def exception (kind : String) (arguments : List Value) (fields : List (String × Value)) :
    Running Value :=
  make (.made (.type kind) (("args", .tuple arguments) :: fields) none)

/-- An exception that is raised while another one is being handled knows that one. -/
def noteContext (e : Value) : Running Unit := do
  match e, (← get).handled with
  | .object n, (.object c, _) :: _ =>
    if n != c then
      modify fun m => { m with store := m.store.modify n fun
        | .made type fields core =>
          if (fields.lookup "__context__").isSome then .made type fields core
          else .made type (fields ++ [("__context__", .object c)]) core
        | x => x }
  | _, _ => return

/-- Raises an exception. -/
def raise {α : Type} (e : Value) : Running α := do
  noteContext e
  throw (.raised e (← trace))

/-- Raises an exception of a type with words. -/
def fail {α : Type} (kind : String) (words : Text) : Running α := do
  raise (← exception kind [.text words] [])

/-- A value of a wrong type is refused. -/
def typeError {α : Type} (words : Text) : Running α := fail "TypeError" words

/-- A wrong value is refused. -/
def valueError {α : Type} (words : Text) : Running α := fail "ValueError" words

/-- The type of the exception for an obstacle. -/
def obstacleType : Obstacle → String
  | .missing => "FileNotFoundError"
  | .exists => "FileExistsError"
  | .denied => "PermissionError"
  | .isDirectory => "IsADirectoryError"
  | .notDirectory => "NotADirectoryError"
  | .brokenPipe => "BrokenPipeError"
  | _ => "OSError"

/-- Raises the exception for an obstacle on a path. -/
def failAt {α : Type} (obstacle : Obstacle) (path : Option Value) : Running α := do
  let number : Value := .int ((obstacle.number?.getD 0 : Nat) : Int)
  let words : Value := .text obstacle.words
  raise (← exception (obstacleType obstacle) [number, words]
    [("errno", number), ("strerror", words), ("filename", path.getD .none)])

/-- A key that is not there. -/
def keyError {α : Type} (key : Value) : Running α := do raise (← exception "KeyError" [key] [])

/-- An iterator has come to its end. A function that yields may have returned something. -/
def stopped {α : Type} (it : Value) : Running α := do
  let m ← get
  let answer := match ← objectOf? it with
    | some (.generator ..) => m.answer
    | _ => .none
  let arguments := match answer with
    | .none => []
    | _ => [answer]
  raise (← exception "StopIteration" arguments [("value", answer)])

/-- An instance of a type, with the fields it has. -/
def fieldsOf? (v : Value) : Running (Option (Value × List (String × Value) × Option Value)) := do
  match ← objectOf? v with
  | some (.made type fields core) => return some (type, fields, core)
  | _ => return none

/-- A field is set in a list of them. -/
def setField (name : String) (v : Value) : List (String × Value) → List (String × Value)
  | [] => [(name, v)]
  | (n, old) :: rest => if n = name then (n, v) :: rest else (n, old) :: setField name v rest

/-- What an exception is about. -/
def argumentsOf (e : Value) : Running (List Value) := do
  match ← fieldsOf? e with
  | some (_, fields, _) =>
    match fields.lookup "args" with
    | some (.tuple items) => return items
    | _ => return []
  | none => return []

/-- What is raised while something runs is told. -/
def attempt {α : Type} (x : Running α) : Running (Except Signal α) :=
  ExceptT.mk do return .ok (← x.run)

/-- Where a script is. -/
structure Position where
  function : String
  line : Nat
  callers : List (String × Nat)
  depth : Nat
  handled : List (Value × List (String × Nat))

/-- Where the script is. -/
def position : Running Position := do
  let m ← get
  return ⟨m.function, m.line, m.callers, m.depth, m.handled⟩

/-- The script is where it was before. -/
def comeBack (p : Position) : Running Unit :=
  modify fun m => { m with
    function := p.function, line := p.line, callers := p.callers, depth := p.depth, handled := p.handled }

/-- An exception of these types is caught. -/
def catching {α : Type} (kinds : List String) (x : Running α) (other : Value → Running α) :
    Running α := do
  let before ← position
  match ← attempt x with
  | .ok a => return a
  | .error (.raised e t) =>
    let type ← typeOf e
    if ← kinds.anyM fun k => isBelow type (.type k) then
      comeBack before
      other e
    else throw (.raised e t)
  | .error s => throw s

/-! ## Input and output -/

/-- What has been printed is written. -/
def flush : Running Unit := do
  let m ← get
  if !m.held.isEmpty then
    modify fun m => { m with held := [], size := 0 }
    let _ ← (write 1 m.held.reverse.flatten : Act Bool)

/-- How much is kept until it is written. -/
def heldLimit : Nat := 8192

/-- Prints to the output. -/
def emit (t : Octets) : Running Unit := do
  modify fun m => { m with held := t :: m.held, size := m.size + t.length }
  if heldLimit ≤ (← get).size then flush

/-- Writes to the complaints. -/
def complainWith (t : Text) : Running Unit := do
  let _ ← (write 2 (encode t) : Act Bool)

/-- What is left of the input. -/
def input : Running Octets := do
  match (← get).input with
  | some t => return t
  | none =>
    match ← (readAll 0 : Act (Option Octets)) with
    | some t =>
      modify fun m => { m with input := some t }
      return t
    | none => return []

/-- So much is left of the input. -/
def setInput (t : Octets) : Running Unit := modify fun m => { m with input := some t }

end Equate.Shell.Dynamic
