import Equate.Shell.Dynamic.Builtin

/-!
# Attributes

An attribute of an instance is looked for in its class first, where properties are, then in
the instance, then in the class again. Values of types that scripts find have the methods of
their types, modules their functions and constants.
-/
namespace Equate.Shell.Dynamic

/-! ## Modules -/

/-- The modules that scripts find. -/
def moduleNames : List String :=
  ["math", "json", "sys", "os", "os.path", "signal", "time", "random", "re", "itertools", "functools", "collections",
    "collections.abc", "subprocess", "string", "copy", "operator", "io", "statistics", "hashlib", "base64", "binascii",
    "pathlib", "types", "typing", "dataclasses", "enum", "contextlib", "abc", "shutil", "textwrap", "bisect", "heapq",
    "errno", "traceback", "warnings", "atexit", "numbers", "__future__", "builtins", "json.decoder", "posixpath", "platform",
    "gc", "locale", "codecs"]

/-- The constants of the module for texts. -/
def textConstant? (name : String) : Option Value :=
  let small := (List.range 26).map fun n => Char.ofNat (97 + n)
  let capital := small.map Char.toUpper
  let digits := (List.range 10).map fun n => Char.ofNat (48 + n)
  let marks : Text := (List.range 94).filterMap fun n =>
    let c := Char.ofNat (33 + n)
    if c.isAlphanum then none else some c
  match name with
  | "ascii_letters" => some (.text (small ++ capital))
  | "ascii_lowercase" => some (.text small)
  | "ascii_uppercase" => some (.text capital)
  | "digits" => some (.text digits)
  | "hexdigits" => some (.text (digits ++ "abcdefABCDEF".toList))
  | "octdigits" => some (.text (digits.take 8))
  | "punctuation" => some (.text marks)
  | "whitespace" => some (.text " \t\n\r\x0b\x0c".toList)
  | "printable" => some (.text (digits ++ small ++ capital ++ marks ++ " \t\n\r\x0b\x0c".toList))
  | _ => none

/-- The names of the system module that are no functions. -/
def systemConstant? (name : String) : Running (Option Value) := do
  let text (s : String) : Running (Option Value) := return some (.text s.toList)
  match name with
  | "argv" => return some (← makeList [])
  | "path" => return some (← makeList [])
  | "modules" => return some (← makeDict .empty)
  | "stdin" => return some (.object (streamPlace 0 false))
  | "stdout" => return some (.object (streamPlace 1 false))
  | "stderr" => return some (.object (streamPlace 2 false))
  | "__stdout__" => return some (.object (streamPlace 1 false))
  | "__stderr__" => return some (.object (streamPlace 2 false))
  | "__stdin__" => return some (.object (streamPlace 0 false))
  | "version" => text "3.11.10 (main, Sep 27 2024, 06:09:18) [GCC 12.2.0]"
  | "version_info" =>
    let parts : List (String × Value) := [("major", .int 3), ("minor", .int 11), ("micro", .int 10),
      ("releaselevel", .text "final"), ("serial", .int 0)]
    let type ← recordClass "sys.version_info" (parts.map fun p => p.1.toList) []
    return some (← make (.made type [] (some (.tuple (parts.map Prod.snd)))))
  | "platform" => text "linux"
  | "byteorder" => text "little"
  | "executable" => text "/usr/local/bin/python3"
  | "prefix" => text "/usr/local"
  | "maxsize" => return some (.int 9223372036854775807)
  | "maxunicode" => return some (.int 1114111)
  | "float_info" =>
    return some (← make (.made (.type "types.SimpleNamespace") [("max", .float 1.7976931348623157e308),
      ("min", .float 2.2250738585072014e-308), ("epsilon", .float 2.220446049250313e-16), ("dig", .int 15),
      ("mant_dig", .int 53), ("max_exp", .int 1024), ("min_exp", .int (-1021)), ("max_10_exp", .int 308),
      ("min_10_exp", .int (-307)), ("radix", .int 2), ("rounds", .int 1)] none))
  | _ => return none

/-- What is called by another name in a module. -/
def moduleTypes : List (String × String) :=
  [("collections.defaultdict", "defaultdict"), ("collections.OrderedDict", "OrderedDict"),
    ("collections.Counter", "Counter"), ("collections.deque", "collections.deque"), ("io.StringIO", "_io.StringIO"),
    ("io.BytesIO", "_io.BytesIO"), ("io.TextIOWrapper", "_io.TextIOWrapper"), ("pathlib.Path", "pathlib.PosixPath"),
    ("pathlib.PurePath", "pathlib.PosixPath"), ("pathlib.PosixPath", "pathlib.PosixPath"),
    ("types.SimpleNamespace", "types.SimpleNamespace"), ("types.FunctionType", "function"),
    ("types.GeneratorType", "generator"), ("types.ModuleType", "module"), ("json.JSONDecodeError", "json.decoder.JSONDecodeError"),
    ("json.decoder.JSONDecodeError", "json.decoder.JSONDecodeError"), ("json.JSONEncoder", "json.encoder.JSONEncoder"),
    ("json.JSONDecoder", "json.decoder.JSONDecoder"), ("re.error", "re.error"), ("re.Pattern", "re.Pattern"),
    ("re.Match", "re.Match"), ("subprocess.CalledProcessError", "subprocess.CalledProcessError"),
    ("subprocess.TimeoutExpired", "subprocess.TimeoutExpired"), ("subprocess.SubprocessError", "subprocess.SubprocessError"),
    ("subprocess.CompletedProcess", "subprocess.CompletedProcess"), ("statistics.StatisticsError", "statistics.StatisticsError"),
    ("binascii.Error", "binascii.Error"), ("enum.Enum", "Enum"), ("enum.IntEnum", "IntEnum"),
    ("enum.IntFlag", "IntFlag"), ("enum.StrEnum", "StrEnum"), ("dataclasses.FrozenInstanceError", "dataclasses.FrozenInstanceError"),
    ("io.UnsupportedOperation", "io.UnsupportedOperation"), ("enum.Flag", "Enum"),
    ("abc.ABC", "object"), ("abc.ABCMeta", "type"), ("numbers.Number", "numbers.Number"), ("numbers.Real", "numbers.Real"),
    ("numbers.Integral", "numbers.Integral"), ("typing.NamedTuple", "NamedTuple"), ("typing.Generic", "object"),
    ("typing.Protocol", "object"), ("os.error", "OSError"), ("os.PathLike", "os.PathLike"), ("random.Random", "random.Random"),
    ("string.Template", "string.Template")]

/-- What a module has under a name. -/
def moduleMember? (m name : String) : Running (Option Value) := do
  let full := m ++ "." ++ name
  match ← changed? full with
  | some v => return some v
  | none =>
    let among (names : List String) : Option Value := if names.contains name then some (.builtin full) else none
    match moduleTypes.lookup full with
    | some type => return some (.type type)
    | none =>
      match m, name with
      | "math", _ => return (mathConstant? name).or (among mathFunctions)
      | "json", "decoder" => return some (.module "json.decoder")
      | "json", _ => return among ["loads", "load", "dumps", "dump"]
      | "sys", _ =>
        match ← systemConstant? name with
        | some v =>
          modify fun s => { s with settings := (full, v) :: s.settings }
          return some v
        | none => return among ["exit", "getrecursionlimit", "setrecursionlimit", "exc_info", "getsizeof", "intern",
            "getdefaultencoding", "getfilesystemencoding", "set_int_max_str_digits", "_getframe"]
      | "os", "path" => return some (.module "os.path")
      | "os", "environ" => return some (← environment)
      | "os", "sep" => return some (.text "/")
      | "os", "linesep" => return some (.text "\n")
      | "os", "pathsep" => return some (.text ":")
      | "os", "curdir" => return some (.text ".")
      | "os", "devnull" => return some (.text "/dev/null")
      | "os", "name" => return some (.text "posix")
      | "os", "O_RDONLY" => return some (.int 0)
      | "os", "O_WRONLY" => return some (.int 1)
      | "os", "F_OK" => return some (.int 0)
      | "os", "X_OK" => return some (.int 1)
      | "os", "W_OK" => return some (.int 2)
      | "os", "R_OK" => return some (.int 4)
      | "os", _ => return among systemFunctions
      | "os.path", "sep" => return some (.text "/")
      | "os.path", _ => return among pathFunctions
      | "posixpath", _ => return if pathFunctions.contains name then some (.builtin ("os.path." ++ name)) else none
      | "signal", _ => return (signalConstant? name).or (among signalFunctions)
      | "time", _ => return among clockFunctions
      | "random", _ => return among randomFunctions
      | "re", _ =>
        let flags : List (String × Int) := [("I", 2), ("IGNORECASE", 2), ("M", 8), ("MULTILINE", 8), ("S", 16),
          ("DOTALL", 16), ("X", 64), ("VERBOSE", 64), ("A", 256), ("ASCII", 256), ("U", 32), ("UNICODE", 32)]
        return ((flags.lookup name).map Value.int).or (among ("compile" :: "escape" :: "purge" :: patternMethods))
      | "itertools", _ => return among iteratorFunctions
      | "functools", _ => return among functionFunctions
      | "collections", "abc" => return some (.module "collections.abc")
      | "collections", _ => return among ["namedtuple", "ChainMap"]
      | "collections.abc", _ => return some (.type full)
      | "subprocess", "PIPE" => return some (.int (-1))
      | "subprocess", "STDOUT" => return some (.int (-2))
      | "subprocess", "DEVNULL" => return some (.int (-3))
      | "subprocess", _ => return among programFunctions
      | "string", "capwords" => return some (.builtin full)
      | "string", _ => return textConstant? name
      | "copy", _ => return among ["copy", "deepcopy"]
      | "operator", _ => return among operatorNames
      | "io", "open" => return some (.builtin "open")
      | "statistics", _ => return among statisticsFunctions
      | "hashlib", _ => return among ("new" :: digestNames)
      | "base64", _ => return among ["b64encode", "b64decode", "standard_b64encode", "standard_b64decode",
          "urlsafe_b64encode", "b32encode", "b32decode", "b16encode"]
      | "binascii", _ => return among ["hexlify", "unhexlify"]
      | "typing", _ =>
        return among ["cast", "TypeVar", "NewType", "overload", "runtime_checkable", "final"] |>.or
          (if name = "TYPE_CHECKING" then some (.bool false) else some (.type full))
      | "dataclasses", _ => return among ["dataclass", "field", "asdict", "astuple", "replace", "fields", "is_dataclass"]
      | "enum", _ => return among ["auto", "unique"]
      | "contextlib", _ => return among ["contextmanager", "suppress", "closing", "nullcontext", "redirect_stdout",
          "redirect_stderr"]
      | "abc", _ => return among ["abstractmethod"]
      | "shutil", _ => return among ["which", "copy", "copyfile", "rmtree", "move", "copy2"]
      | "textwrap", _ => return among ["dedent", "indent", "wrap", "fill"]
      | "bisect", _ => return among orderFunctions
      | "heapq", _ => return among orderFunctions
      | "errno", _ =>
        let numbers : List (String × Int) := [("ENOENT", 2), ("EACCES", 13), ("EEXIST", 17), ("EPERM", 1), ("EPIPE", 32),
          ("EINVAL", 22), ("EISDIR", 21), ("ENOTDIR", 20), ("ENOTEMPTY", 39), ("EBADF", 9), ("ESRCH", 3), ("EAGAIN", 11)]
        return (numbers.lookup name).map Value.int
      | "traceback", _ => return among ["print_exc", "format_exc"]
      | "warnings", _ => return among ["warn", "filterwarnings", "simplefilter", "catch_warnings"]
      | "atexit", _ => return among ["register"]
      | "gc", _ => return among ["collect", "disable", "enable"]
      | "platform", _ => return among ["system", "machine", "python_version", "node"]
      | "locale", _ => return among ["setlocale"]
      | "__future__", _ => return some .none
      | "builtins", _ => return builtinValue? name
      | "json.decoder", _ => return none
      | _, _ => return none

/-! ## Types -/

/-- The methods of a type that scripts find. -/
def methodsOf (type : String) : List String :=
  match type with
  | "str" => textMethods
  | "bytes" => bytesMethods
  | "bytearray" => bytesMethods
  | "int" => intMethods
  | "bool" => intMethods
  | "float" => floatMethods
  | "list" => listMethods
  | "collections.deque" => dequeMethods
  | "dict" => dictMethods
  | "defaultdict" => dictMethods
  | "OrderedDict" => "move_to_end" :: dictMethods
  | "Counter" => counterMethods
  | "set" => setMethods
  | "frozenset" => setMethods
  | "tuple" => ["count", "index", "__len__", "_asdict", "_replace"]
  | "range" => ["count", "index", "__len__"]
  | "generator" => ["send", "close", "throw", "__next__", "__iter__"]
  | "re.Pattern" => patternMethods
  | "re.Match" => foundMethods
  | "_io.TextIOWrapper" => fileMethods
  | "_io.BufferedReader" => fileMethods
  | "_io.StringIO" => fileMethods
  | "_io.BytesIO" => fileMethods
  | "subprocess.Popen" => startedMethods
  | "subprocess.CompletedProcess" => ["check_returncode"]
  | "pathlib.PosixPath" => pathMethods
  | "_hashlib.HASH" => digestMethods
  | "property" => ["setter", "getter", "deleter"]
  | "functools._lru_cache_wrapper" => ["cache_clear", "cache_info"]
  | "contextlib.manager" => ["__enter__", "__exit__"]
  | "json.encoder.JSONEncoder" => ["encode", "default"]
  | "string.Template" => ["substitute", "safe_substitute"]
  | "random.Random" => randomFunctions
  | type =>
    if isExceptionName type then ["with_traceback", "add_note", "__str__", "__init__"]
    else if ["map", "filter", "zip", "enumerate", "list_iterator", "iterator"].contains type ∨
        "itertools.".isPrefixOf type ∨ type.endsWith "iterator" then ["__next__", "__iter__"]
    else []

/-- A function of a class as an attribute of an instance. -/
def boundTo (w : Ways) (type self v : Value) : Running Value := do
  match v with
  | .object n =>
    match ← objectAt? n with
    | some (.function _) => return .method v self
    | some (.property get _) => w.call get [self] []
    | some (.wrapped "staticmethod" f) => return f
    | some (.wrapped "classmethod" f) => return .method f type
    | some (.made (.type "functools._lru_cache_wrapper") _ _) => return .method v self
    | some (.wrapped "cached_property" f) =>
      let r ← w.call f [self] []
      let name : Option String ← match ← objectOf? f with
        | some (.function d) => pure (some d.name)
        | _ => pure none
      match name, self with
      | some name, .object k =>
        match ← objectAt? k with
        | some (.made t fields core) => setObject k (.made t (setField name r fields) core)
        | _ => pure ()
      | _, _ => pure ()
      return r
    | _ => return v
  | .builtin name =>
    if "dataclasses.".isPrefixOf name || "functools._ordered".isPrefixOf name then return .method v self else return v
  | v => return v

/-- Names with their values as a table. -/
def namesTable (fields : List (String × Value)) : Running Value :=
  makeDict ((fields.filter fun f => !".".isPrefixOf f.1).foldl (fun (t : Table) (n, v) =>
    t.put ('t' :: n.toList) (.text n.toList) v) .empty)

/-- What a type says about itself. -/
def typeMember? (w : Ways) (type : Value) (name : String) : Running (Option Value) := do
  let own ← classAttribute? type name
  match own with
  | some v =>
    match ← objectOf? v with
    | some (.wrapped "staticmethod" f) => return some f
    | some (.wrapped "classmethod" f) => return some (.method f type)
    | _ => return some v
  | none =>
    let short := (shortName (← nameOfType type)).toList
    match name with
    | "__name__" => return some (.text short)
    | "__qualname__" => return some (.text short)
    | "__module__" => return some (.text (if type matches .object _ then "__main__" else "builtins"))
    | "__doc__" => return some .none
    | "__mro__" => return some (.tuple (← lineage type))
    | "mro" => return some (.bound "mro" type)
    | "__bases__" =>
      match ← kindOf? type with
      | some k => return some (.tuple k.bases)
      | none => return some (.tuple ((← lineage type).tail.take 1))
    | "__dict__" => return some (← namesTable ((← kindOf? type).map Kind.fields |>.getD []))
    | "__annotations__" => return some (← makeDict .empty)
    | "__members__" =>
      match ← kindOf? type with
      | some k =>
        let members ← k.fields.filterM fun (_, v) => do return isSame (← typeOf v) type
        return some (← namesTable members)
      | none => return none
    | "__subclasses__" => return none
    | "__new__" => return some (.bound "__new__" type)
    | "__init__" => return some (.bound "__init__" type)
    | "_make" => return some (.bound "_make" type)
    | name =>
      let base := (← lineage type).findSome? fun t => match t with
        | .type b => if (methodsOf b).contains name then some b else none
        | _ => none
      match base with
      | some b => return some (.builtin ("type:" ++ b ++ ":" ++ name))
      | none =>
        match type, name with
        | .type "float", "__getformat__" => return none
        | .type "bytes", "fromhex" => return some (.builtin "type:bytes:fromhex")
        | .type "pathlib.PosixPath", "cwd" => return some (.builtin "type:pathlib.PosixPath:cwd")
        | .type "pathlib.PosixPath", "home" => return some (.builtin "type:pathlib.PosixPath:home")
        | .type "dict", "__or__" => return none
        | .type b, "__eq__" => return some (.builtin ("type:" ++ b ++ ":__eq__"))
        | .type b, "__repr__" => return some (.builtin ("type:" ++ b ++ ":__repr__"))
        | .type b, "__str__" => return some (.builtin ("type:" ++ b ++ ":__str__"))
        | .type b, "__setattr__" => return some (.builtin ("type:" ++ b ++ ":__setattr__"))
        | .type b, "__getattribute__" => return some (.builtin ("type:" ++ b ++ ":__getattribute__"))
        | _, _ =>
          let _ := w
          return none

/-! ## Instances -/

/-- An attribute of an instance. -/
def instanceMember? (w : Ways) (n : Nat) (type : Value) (fields : List (String × Value)) (core : Option Value)
    (name : String) : Running (Option Value) := do
  let self := Value.object n
  let own ← classAttribute? type name
  let isProperty ← match own with
    | some v =>
      match ← objectOf? v with
      | some (.property ..) => pure true
      | _ => pure false
    | none => pure false
  match own, isProperty, fields.lookup name with
  | some v, true, _ => return some (← boundTo w type self v)
  | _, _, some v => return some v
  | some v, _, none => return some (← boundTo w type self v)
  | none, _, none =>
    let isException ← isBelow type (.type "BaseException")
    match name with
    | "__class__" => return some type
    | "__dict__" => return some (← namesTable fields)
    | "__module__" => return some (.text "__main__")
    | "__doc__" => return some .none
    | "name" =>
      if ← isBelow type (.type "Enum") then return fields.lookup "_name_" else more isException self
    | "value" =>
      if ← isBelow type (.type "Enum") then return fields.lookup "_value_" else more isException self
    | "__traceback__" => return if isException then some .none else none
    | "__cause__" => return if isException then some .none else none
    | "__context__" => return if isException then some .none else none
    | "__init__" => return some (.bound "__init__" self)
    | "__eq__" => return some (.bound "__eq__" self)
    | "__ne__" => return some (.bound "__ne__" self)
    | "__hash__" => return some (.bound "__hash__" self)
    | "__repr__" => return some (.bound "__repr__" self)
    | "__str__" => return some (.bound "__str__" self)
    | "__setattr__" => return some (.bound "__setattr__" self)
    | "__getattribute__" => return some (.bound "__getattribute__" self)
    | _ => more isException self
where
  /-- What the type that scripts find has. -/
  more (isException : Bool) (self : Value) : Running (Option Value) := do
    let names ← match ← classAttribute? type "_fields" with
      | some (.tuple names) => pure names
      | _ => pure []
    match names.zipIdx.find? (fun (k, _) => k matches .text _ && isSame k (.text name.toList)), core with
    | some (_, i), some (.tuple items) => return items[i]?
    | _, _ =>
      let typeNames := (← lineage type).filterMap fun t => match t with
        | .type b => some b
        | _ => none
      if typeNames.contains "pathlib.PosixPath" then
        match core with
        | some (.text t) =>
          match ← pathPart? t name with
          | some v => return some v
          | none => if pathMethods.contains name then return some (.bound name self) else return none
        | _ => return none
      else if name = "_asdict" ∨ name = "_replace" ∨ name = "_fields" then
        return if names.isEmpty then none else some (.bound name self)
      else if typeNames.any fun b => (methodsOf b).contains name then
        match core, isException with
        | some c, false => return some (.bound name c)
        | _, _ => return some (.bound name self)
      else
        match ← special? self "__getattr__" with
        | some f => return some (← w.call f [self, .text name.toList] [])
        | none => return none

/-- What a function or a class says about itself in its first statement. -/
def documentation (body : List Statement) : Value :=
  match body with
  | .line _ (.value (.constant (.text t))) :: _ => .text t
  | _ => .none

/-- What is told about a value by the number of its object. -/
def noted? (n : Nat) (name : String) : Running (Option Value) := changed? ("@" ++ toString n ++ "." ++ name)

/-- An attribute of a value. -/
def member? (w : Ways) (v : Value) (name : String) : Running (Option Value) := do
  let typeName ← typeName v
  let methods (self : Value) : Option Value :=
    if (methodsOf typeName).contains name then some (.bound name self) else none
  let general : Running (Option Value) := do
    match name with
    | "__class__" => return some (← typeOf v)
    | "__doc__" => return some .none
    | "__str__" => return some (.bound "__str__" v)
    | "__repr__" => return some (.bound "__repr__" v)
    | "__eq__" => return some (.bound "__eq__" v)
    | "__hash__" => return some (.bound "__hash__" v)
    | "__format__" => return some (.bound "__format__" v)
    | "__iter__" =>
      let known := ["list", "tuple", "str", "dict", "set", "range"].contains typeName
      return if known then some (.bound "__iter__" v) else none
    | _ => return none
  let orGeneral (r : Option Value) : Running (Option Value) := do
    match r with
    | some x => return some x
    | none => general
  match v with
  | .module m =>
    match ← moduleMember? m name with
    | some x => return some x
    | none =>
      return if name = "__name__" then some (.text m.toList)
        else if name = "__file__" then some (.text []) else none
  | .type _ => typeMember? w v name
  | .int n =>
    match name with
    | "real" => return some v
    | "imag" => return some (.int 0)
    | "numerator" => return some (.int n)
    | "denominator" => return some (.int 1)
    | _ => orGeneral (methods v)
  | .float _ =>
    match name with
    | "real" => return some v
    | "imag" => return some (.float 0)
    | _ => orGeneral (methods v)
  | .range a b c =>
    match name with
    | "start" => return some (.int a)
    | "stop" => return some (.int b)
    | "step" => return some (.int c)
    | _ => orGeneral (methods v)
  | .slice a b c =>
    match name with
    | "start" => return some a
    | "stop" => return some b
    | "step" => return some c
    | "indices" => return some (.bound name v)
    | _ => general
  | .builtin f =>
    match name with
    | "__name__" => return some (.text (shortName f).toList)
    | "__qualname__" => return some (.text (shortName f).toList)
    | "__module__" => return some (.text "builtins")
    | "from_iterable" => return some (.builtin (f ++ ".from_iterable"))
    | _ => general
  | .bound f _ => if name = "__name__" then return some (.text f.toList) else general
  | .method f self =>
    match name with
    | "__self__" => return some self
    | "__func__" => return some f
    | name => functionMember f name
  | .above owner self =>
    let type ← typeOf self
    let isType := match ← objectOf? self with
      | some (.kind _) => true
      | _ => false
    let line ← if isType then lineage self else lineage type
    let behind := (line.dropWhile fun t => !isSame t owner).drop 1
    let found ← behind.findSomeM? fun t => do
      match t with
      | .object _ => return (← kindOf? t).bind fun k => k.fields.lookup name
      | _ => return none
    match found with
    | some x => return some (← boundTo w (if isType then self else type) self x)
    | none =>
      match name with
      | "__init__" => return some (.bound "__init__" self)
      | "__new__" => return some (.bound "__new__" self)
      | "__setattr__" => return some (.bound "__setattr__" self)
      | "__repr__" => return some (.bound ".repr" self)
      | "__str__" => return some (.bound ".str" self)
      | "__eq__" => return some (.bound ".eq" self)
      | "__hash__" => return some (.bound ".hash" self)
      | "__init_subclass__" => return some (.bound ".nothing" self)
      | "default" => return some (.bound "default" self)
      | "__getattribute__" => return some (.bound "__getattribute__" self)
      | name =>
        let bases := behind.filterMap fun t => match t with
          | .type b => some b
          | _ => none
        if bases.any fun b => (methodsOf b).contains name then return some (.bound name (← coreOf self))
        else if bases.any isExceptionName then
          match ← objectOf? self with
          | some (.made _ fields _) => return fields.lookup name
          | _ => return none
        else return none
  | .object n =>
    match ← objectAt? n with
    | none => return none
    | some x =>
      match x with
      | .made type fields core => instanceMember? w n type fields core name
      | .kind _ => typeMember? w v name
      | .scope s =>
        match s.named[name]? with
        | some x => return some x
        | none =>
          if name = "__dict__" then
            return some (← namesTable (s.order.reverse.filterMap fun k => s.named[k]?.map fun v => (k, v)))
          else return none
      | .function _ => functionMember v name
      | .file f =>
        match name with
        | "name" => return some (.text f.path)
        | "mode" => return some (.text f.mode.toList)
        | "closed" => return some (.bool f.closed)
        | "encoding" => return some (.text "utf-8")
        | "errors" => return some (.text "strict")
        | "newlines" => return some .none
        | "buffer" =>
          match streamAt? n with
          | some d => return some (.object (streamPlace d true))
          | none => return none
        | _ => orGeneral (methods v)
      | .buffer .. =>
        match name with
        | "closed" => return some (.bool false)
        | _ => orGeneral (methods v)
      | .deque _ most =>
        match name with
        | "maxlen" => return some ((most.map fun n => Value.int n).getD .none)
        | _ => orGeneral (methods v)
      | .dict _ _ f =>
        match name with
        | "default_factory" => return some f
        | _ => orGeneral (methods v)
      | .pattern p =>
        match name with
        | "pattern" => return some (.text p.source)
        | "groups" => return some (.int p.count)
        | "flags" => return some (.int (if p.folded then 34 else 32))
        | "groupindex" =>
          return some (← makeDict (p.names.foldl (fun (t : Table) (k, i) => t.put ('t' :: k) (.text k) (.int i)) .empty))
        | _ => orGeneral (methods v)
      | .found p text f =>
        match name with
        | "string" => return some (.text text.toList)
        | "re" => return some (← make (.pattern p))
        | "pos" => return some (.int 0)
        | "endpos" => return some (.int text.size)
        | "lastindex" => return some ((f.groups.head?.map fun g => Value.int g.1).getD .none)
        | "lastgroup" => return some ((f.groups.head?.bind fun g =>
            (p.names.find? fun m => m.2 == g.1).map fun m => Value.text m.1).getD .none)
        | _ => orGeneral (methods v)
      | .prepared f arguments named =>
        match name with
        | "func" => return some f
        | "args" => return some (.tuple arguments)
        | "keywords" => return some (← namesTable named)
        | _ => general
      | .property get set =>
        match name with
        | "fget" => return some get
        | "fset" => return some set
        | _ => orGeneral (methods v)
      | .wrapped _ f => if name = "__func__" then return some f else functionMember f name
      | _ => orGeneral (methods v)
  | v => orGeneral (methods v)
where
  /-- An attribute of a function. -/
  functionMember (f : Value) (name : String) : Running (Option Value) := do
    match f, ← objectOf? f with
    | .object n, some (.function d) =>
      match ← noted? n name with
      | some x => return some x
      | none =>
        match name with
        | "__name__" => return some (.text d.name.toList)
        | "__qualname__" => return some (.text d.name.toList)
        | "__doc__" => return some (documentation d.body)
        | "__module__" => return some (.text "__main__")
        | "__dict__" => return some (← makeDict .empty)
        | "__defaults__" => return some (if d.defaults.isEmpty then .none else .tuple (d.defaults.map Prod.snd))
        | "__annotations__" => return some (← makeDict .empty)
        | "__class__" => return some (.type "function")
        | "__call__" => return some f
        | _ => return none
    | _, _ => return none

/-- An attribute of a value that has to be there. -/
def memberOf (w : Ways) (v : Value) (name : String) : Running Value := do
  match ← member? w v name with
  | some x => return x
  | none =>
    let refused (words : Text) : Running Value := do
      raise (← exception "AttributeError" [.text words] [("name", .text name.toList), ("obj", v)])
    let tail := " has no attribute '".toList ++ name.toList ++ ['\'']
    match v with
    | .module m => refused ("module '" ++ m.toList ++ '\'' :: tail)
    | .type t => refused ("type object '" ++ t.toList ++ '\'' :: tail)
    | v =>
      match ← objectOf? v with
      | some (.kind k) => refused ("type object '" ++ k.name.toList ++ '\'' :: tail)
      | some (.scope s) =>
        let shown : Text := match s.named["__name__"]? with
          | some (.text t) => " '" ++ t ++ ['\'']
          | _ => []
        refused ("module" ++ shown ++ tail)
      | _ => refused ('\'' :: (← typeName v).toList ++ "' object" ++ tail)

/-- An attribute of a value is set. -/
def setMember (w : Ways) (v : Value) (name : String) (x : Value) : Running Unit := do
  match v with
  | .module m => modify fun s => { s with settings := setField (m ++ "." ++ name) x s.settings }
  | .object n =>
    match ← objectAt? n with
    | some (.made type _ _) =>
      match ← classAttribute? type "__setattr__" with
      | some f =>
        let _ ← w.call f [v, .text name.toList, x] []
      | none => plainly w n type name x
    | some (.kind k) => setObject n (.kind { k with fields := setField name x k.fields })
    | some (.scope s) => setObject n (.scope { s with
        named := s.named.insert name x
        order := if s.named.contains name then s.order else name :: s.order })
    | some (.function _) =>
      modify fun s => { s with settings := setField ("@" ++ toString n ++ "." ++ name) x s.settings }
    | _ => refused
  | _ => refused
where
  /-- The attribute cannot be set. -/
  refused : Running Unit := do
    let t ← typeName v
    match ← member? w v name with
    | some _ => fail "AttributeError" ('\'' :: t.toList ++ "' object attribute '" ++ name.toList ++ "' is read-only")
    | none => fail "AttributeError" ('\'' :: t.toList ++ "' object has no attribute '" ++ name.toList ++ ['\''])
  /-- The attribute of an instance is set, by its property if there is one. -/
  plainly (w : Ways) (n : Nat) (type : Value) (name : String) (x : Value) : Running Unit := do
    let own ← classAttribute? type name
    let property ← match own with
      | some p => objectOf? p
      | none => pure none
    match property with
    | some (.property _ set) =>
      match set with
      | .none =>
        fail "AttributeError" ("property '" ++ name.toList ++ "' of '" ++ (← nameOfType type).toList ++
          "' object has no setter")
      | set =>
        let _ ← w.call set [.object n, x] []
    | _ =>
      if (← classAttribute? type ".frozen").isSome then
        fail "dataclasses.FrozenInstanceError" ("cannot assign to field '" ++ name.toList ++ ['\''])
      if (← classAttribute? type "_fields").isSome && !(← isBelow type (.type "BaseException")) then
        fail "AttributeError" "can't set attribute"
      modify fun m => { m with store := m.store.modify n fun
        | .made t fields core => .made t (setField name x fields) core
        | o => o }

/-- An attribute of a value is taken away. -/
def deleteMember (v : Value) (name : String) : Running Unit := do
  match v with
  | .object n =>
    match ← objectAt? n with
    | some (.made type fields core) =>
      if (fields.lookup name).isSome then
        setObject n (.made type (fields.filter fun f => f.1 != name) core)
      else fail "AttributeError" ('\'' :: (← typeName v).toList ++ "' object has no attribute '" ++ name.toList ++ ['\''])
    | some (.kind k) => setObject n (.kind { k with fields := k.fields.filter fun f => f.1 != name })
    | _ => fail "AttributeError" name.toList
  | _ => fail "AttributeError" name.toList

end Equate.Shell.Dynamic
