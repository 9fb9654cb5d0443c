import Equate.Shell.Dynamic.Exchange
import Equate.Shell.Dynamic.Searching
import Equate.Shell.Dynamic.Tools

/-!
# Types and functions that are always there

A type makes values of itself from others. The functions work on whatever can answer them.
-/
namespace Equate.Shell.Dynamic

/-- The functions that are always there. -/
def builtinFunctions : List String :=
  ["print", "len", "repr", "ascii", "abs", "min", "max", "sum", "sorted", "any", "all", "isinstance", "issubclass",
    "hasattr", "getattr", "setattr", "delattr", "callable", "id", "hash", "iter", "next", "open", "input", "chr", "ord",
    "hex", "oct", "bin", "round", "pow", "divmod", "format", "vars", "dir", "globals", "locals", "exit", "quit",
    "eval", "exec", "compile", "__import__", "__build_class__"]

/-- A value of a name that is always there. -/
def builtinValue? (name : String) : Option Value :=
  if typeNames.contains name then some (.type name)
  else if builtinFunctions.contains name then some (.builtin name)
  else if (parents.lookup name).isSome && isExceptionName name && !name.toList.contains '.' then some (.type name)
  else
    match name with
    | "Ellipsis" => some .ellipsis
    | "NotImplemented" => some .notImplemented
    | "EnvironmentError" => some (.type "OSError")
    | "IOError" => some (.type "OSError")
    | "__debug__" => some (.bool true)
    | _ => none

/-! ## Types -/

/-- A value is an instance of a type as it is asked for. -/
def isInstanceOf (w : Ways) : Nat → Value → Value → Running Bool
  | 0, _, _ => return false
  | fuel + 1, v, type => do
    let own ← typeOf v
    let among (names : List String) : Running Bool := names.anyM fun n => isBelow own (.type n)
    match type with
    | .tuple types => types.anyM fun t => isInstanceOf w fuel v t
    | .none => return (v matches .none)
    | .type "collections.abc.Mapping" => among ["dict"]
    | .type "collections.abc.MutableMapping" => among ["dict"]
    | .type "collections.abc.Sequence" => among ["list", "tuple", "str", "range", "bytes"]
    | .type "collections.abc.Callable" => return ["function", "builtin_function_or_method", "method", "type"].contains (← nameOfType own)
    | .type "collections.abc.Iterable" =>
      let r ← attempt (iterator w v)
      return match r with
        | .ok _ => true
        | .error _ => false
    | .type "collections.abc.Hashable" =>
      let r ← attempt (keyOf w v)
      return match r with
        | .ok _ => true
        | .error _ => false
    | .type "numbers.Number" => among ["int", "float"]
    | .type "numbers.Real" => among ["int", "float"]
    | .type "numbers.Integral" => among ["int"]
    | .type _ => isBelow own type
    | .object n =>
      match ← objectAt? n with
      | some (.kind _) => isBelow own type
      | some (.made (.type "types.UnionType") fields _) =>
        match fields.lookup "types" with
        | some t => isInstanceOf w fuel v t
        | none => return false
      | _ => typeError "isinstance() arg 2 must be a type, a tuple of types, or a union"
    | _ => typeError "isinstance() arg 2 must be a type, a tuple of types, or a union"

/-- A whole number from a value. -/
def toInt (w : Ways) (g : Given) : Running Value := do
  match g.plain, g.named.lookup "base" with
  | [], none => return .int 0
  | v :: rest, base =>
    match ← coreOf v, (rest.head?).or base with
    | .text t, b =>
      let base ← match b with
        | some b => wholeNumber w b
        | none => pure 10
      if base ≠ 0 ∧ (base < 2 ∨ 36 < base) then valueError "int() base must be >= 2 and <= 36, or 0"
      match Numeral.readInt? base.toNat t with
      | some n => return .int n
      | none => valueError ("invalid literal for int() with base " ++ integerText base ++ ": " ++ quotedText false false t)
    | .bytes t, b =>
      let base ← match b with
        | some b => wholeNumber w b
        | none => pure 10
      match Numeral.readInt? base.toNat t with
      | some n => return .int n
      | none => valueError ("invalid literal for int() with base " ++ integerText base ++ ": " ++ quotedText true false t)
    | _, some _ => typeError "int() can't convert non-string with explicit base"
    | .int n, none => return .int n
    | .bool b, none => return .int (if b then 1 else 0)
    | .float x, none =>
      if Numeral.isNaN x then valueError "cannot convert float NaN to integer"
      else if Numeral.isInfinite x then fail "OverflowError" "cannot convert float infinity to integer"
      else return .int (Numeral.toInt x)
    | _, none =>
      match ← ask? w v "__int__" [] with
      | some r => return r
      | none =>
        match ← ask? w v "__index__" [] with
        | some r => return r
        | none =>
          match ← ask? w v "__trunc__" [] with
          | some r => return r
          | none => typeError ("int() argument must be a string, a bytes-like object or a real number, not '" ++
              (← typeName v).toList ++ ['\''])
  | [], some _ => typeError "int() missing string argument"

/-- A number from a value. -/
def toFloatValue (w : Ways) (g : Given) : Running Value := do
  match g.plain with
  | [] => return .float 0
  | v :: _ =>
    match ← coreOf v with
    | .text t =>
      match Numeral.readFloat? t with
      | some x => return .float x
      | none => valueError ("could not convert string to float: " ++ quotedText false false t)
    | .bytes t =>
      match Numeral.readFloat? t with
      | some x => return .float x
      | none => valueError ("could not convert string to float: " ++ quotedText true false t)
    | .float x => return .float x
    | .int n => return .float (← floatOfInt n)
    | .bool b => return .float (if b then 1 else 0)
    | _ =>
      match ← ask? w v "__float__" [] with
      | some r => return r
      | none =>
        match ← ask? w v "__index__" [] with
        | some (.int n) => return .float (← floatOfInt n)
        | _ => typeError ("float() argument must be a string or a real number, not '" ++ (← typeName v).toList ++ ['\''])

/-- The type of the exception for the number of an error. -/
def typeOfNumber (n : Int) : String :=
  match n with
  | 2 => "FileNotFoundError"
  | 17 => "FileExistsError"
  | 13 => "PermissionError"
  | 1 => "PermissionError"
  | 21 => "IsADirectoryError"
  | 20 => "NotADirectoryError"
  | 32 => "BrokenPipeError"
  | 3 => "ProcessLookupError"
  | 10 => "ChildProcessError"
  | 110 => "TimeoutError"
  | _ => "OSError"

/-- The fields of an exception of a type with some arguments. -/
def exceptionFields (name : String) (arguments : List Value) : List (String × Value) :=
  let own := lineageOfName 8 name
  let args := ("args", Value.tuple arguments)
  if own.contains "SystemExit" then
    [args, ("code", match arguments with
      | [] => .none
      | [v] => v
      | vs => .tuple vs)]
  else if own.contains "StopIteration" then [args, ("value", arguments.headD .none)]
  else if own.contains "OSError" then
    match arguments with
    | number :: words :: rest =>
      [("args", .tuple [number, words]), ("errno", number), ("strerror", words), ("filename", rest.headD .none)]
    | _ => [args]
  else [args]

/-- An exception from arguments. -/
def makeException (name : String) (g : Given) : Running Value := do
  match name, g.plain with
  | "OSError", .int n :: _ :: _ => exceptionOf (typeOfNumber n) g.plain
  | "json.decoder.JSONDecodeError", .text msg :: .text doc :: .int position :: _ =>
    let before := doc.take position.toNat
    let line := before.count '\n' + 1
    let column := (before.reverse.takeWhile (· ≠ '\n')).length + 1
    exception name [.text (msg ++ ": line " ++ Text.decimal line ++ " column " ++ Text.decimal column ++ " (char " ++
      integerText position ++ [')'])] [("msg", .text msg), ("doc", .text doc), ("pos", .int position),
        ("lineno", .int line), ("colno", .int column)]
  | "subprocess.CalledProcessError", code :: command :: _ =>
    exception name g.plain [("returncode", code), ("cmd", command)]
  | name, arguments =>
    make (.made (.type name) (exceptionFields name arguments ++ g.named) none)
where
  /-- An exception of a type. -/
  exceptionOf (name : String) (arguments : List Value) : Running Value :=
    make (.made (.type name) (exceptionFields name arguments) none)

/-- A value of a type. -/
def makeOfType (w : Ways) (name : String) (g : Given) : Running Value := do
  let first := (g.plain[0]?).getD .none
  let items : Running (List Value) := do
    match g.plain with
    | [] => return []
    | v :: _ => itemsOf w v
  let all : Running (List Value) := g.plain.mapM (iterator w)
  match name with
  | "int" => toInt w g
  | "float" => toFloatValue w g
  | "bool" => return .bool (← match g.plain with
      | [] => pure false
      | v :: _ => isTrue w v)
  | "str" =>
    match g.plain with
    | [] =>
      match g.named.lookup "object" with
      | some v => return .text (← strOf w v)
      | none => return .text []
    | [v] =>
      match v, g.named.lookup "encoding" with
      | .bytes t, some (.text e) => return .text (← decoded t e "strict")
      | v, _ => return .text (← strOf w v)
    | .bytes t :: .text e :: _ => return .text (← decoded t e "strict")
    | _ => typeError "decoding str is not supported"
  | "list" => makeList (← items)
  | "tuple" => return .tuple (← items)
  | "set" => make (.set (← tableOfItems w (← items)) false)
  | "frozenset" => make (.set (← tableOfItems w (← items)) true)
  | "dict" =>
    let entries ← entriesOf w g
    makeDict (entries.foldl (fun (t : Table) (m, k, v) => t.put m k v) .empty)
  | "bytes" => bytesFrom items
  | "bytearray" => bytesFrom items
  | "memoryview" => return first
  | "range" =>
    let numbers ← g.plain.mapM (wholeNumber w)
    match numbers with
    | [n] => return .range 0 n 1
    | [a, b] => return .range a b 1
    | [a, b, c] => if c = 0 then valueError "range() arg 3 must not be zero" else return .range a b c
    | _ => typeError ("range expected at least 1 argument, got " ++ Text.decimal g.plain.length)
  | "slice" =>
    match g.plain with
    | [b] => return .slice .none b .none
    | [a, b] => return .slice a b .none
    | [a, b, c] => return .slice a b c
    | _ => typeError "slice expected at least 1 argument, got 0"
  | "object" => make (.made (.type "object") [] none)
  | "type" => typeOf first
  | "enumerate" =>
    let start ← match g.at? 1 "start" with
      | some v => wholeNumber w v
      | none => pure 0
    makeIterator (.enumerate start (← iterator w first))
  | "zip" =>
    match g.named.lookup "strict" with
    | some (.bool true) =>
      let lists ← g.plain.mapM (itemsOf w)
      let size := (lists.head?.map List.length).getD 0
      match lists.zipIdx.find? fun (l, _) => l.length != size with
      | some (l, i) => valueError ("zip() argument " ++ Text.decimal (i + 1) ++ " is " ++
          (if l.length < size then "shorter" else "longer") ++ " than argument" ++
          (if i = 1 then (" 1" : Text) else "s 1-".toList ++ Text.decimal i))
      | none => makeIterator (.zip (← all))
    | _ => makeIterator (.zip (← all))
  | "map" =>
    if g.plain.length < 2 then typeError "map() must have at least two arguments."
    makeIterator (.map first (← g.plain.tail.mapM (iterator w)))
  | "filter" => makeIterator (.filter first (← iterator w ((g.plain[1]?).getD .none)) true)
  | "reversed" =>
    match ← ask? w first "__reversed__" [] with
    | some r => return r
    | none =>
      if first matches .object _ then
        match ← objectOf? first with
        | some (.set ..) => typeError "'set' object is not reversible"
        | some (.generator ..) => typeError "'generator' object is not reversible"
        | _ => pure ()
      makeIterator (.values (← itemsOf w first).reverse)
  | "property" => make (.property first ((g.plain[1]?).getD .none))
  | "staticmethod" => make (.wrapped "staticmethod" first)
  | "classmethod" => make (.wrapped "classmethod" first)
  | "super" => return .above first ((g.plain[1]?).getD .none)
  | "defaultdict" => collectionCall w name g
  | "OrderedDict" => collectionCall w name g
  | "Counter" => collectionCall w name g
  | "collections.deque" => collectionCall w "deque" g
  | "_io.StringIO" =>
    let t := match g.some? 0 "initial_value" with
      | some (.text t) => t
      | _ => []
    make (.buffer t 0 false)
  | "_io.BytesIO" =>
    let t := match g.some? 0 "initial_bytes" with
      | some (.bytes t) => t
      | _ => []
    make (.buffer t 0 true)
  | "pathlib.PosixPath" =>
    let parts ← g.plain.mapM pathOf
    makePath (keptPath (joinPaths (parts.headD []) parts.tail))
  | "types.SimpleNamespace" => make (.made (.type name) g.named none)
  | "functools.partial" => make (.prepared first g.plain.tail g.named)
  | "complex" => fail "NotImplementedError" "complex numbers"
  | name =>
    if isExceptionName name then makeException name g
    else make (.made (.type name) g.named none)
where
  /-- Bytes from a value. -/
  bytesFrom (items : Running (List Value)) : Running Value := do
    match g.plain with
    | [] => return .bytes []
    | .text t :: rest =>
      match rest with
      | .text e :: _ => return .bytes (← encoded t e "strict")
      | _ =>
        match g.named.lookup "encoding" with
        | some (.text e) => return .bytes (← encoded t e "strict")
        | _ => typeError "string argument without an encoding"
    | .bytes t :: _ => return .bytes t
    | .int n :: _ =>
      if n < 0 then valueError "negative count" else return .bytes (List.replicate n.toNat '\x00')
    | _ =>
      let chars ← (← items).mapM fun v => do
        let n ← wholeNumber w v
        if n < 0 ∨ 255 < n then valueError "bytes must be in range(0, 256)"
        return Char.ofNat n.toNat
      return .bytes chars

/-! ## Functions -/

/-- The least or the greatest of some values. -/
def extreme (w : Ways) (greatest : Bool) (name : String) (g : Given) : Running Value := do
  let items ← match g.plain with
    | [v] => itemsOf w v
    | vs => pure vs
  if g.plain.isEmpty then
    typeError (name.toList ++ " expected at least 1 argument, got 0")
  let key := (g.named.lookup "key").filter fun v => !(v matches .none)
  let keyed (v : Value) : Running Value := do
    match key with
    | some f => w.call f [v] []
    | none => return v
  match items with
  | [] =>
    match g.named.lookup "default" with
    | some v => return v
    | none => valueError (name.toList ++ "() arg is an empty sequence")
  | first :: rest =>
    let (best, _) ← rest.foldlM (fun (best, k) v => do
      let l ← keyed v
      let better ← if greatest then isOrdered w .greater compareDepth l k else isLess w l k
      return if better then (v, l) else (best, k)) (first, ← keyed first)
    return best

/-- The sum of some values. -/
def total (w : Ways) (g : Given) : Running Value := do
  let items ← itemsOf w (← g.required "sum" 0 "iterable")
  let start := (g.at? 1 "start").getD (.int 0)
  if start matches .text _ then typeError "sum() can't sum strings [use ''.join(seq) instead]"
  items.foldlM (operate w .add "+") start

/-- A number rounded as a call wants it. -/
def rounded (w : Ways) (g : Given) : Running Value := do
  let v ← g.required "round" 0 "number"
  match ← coreOf v, g.some? 1 "ndigits" with
  | .int n, none => return .int n
  | .bool b, none => return .int (if b then 1 else 0)
  | .int n, some d =>
    let d ← wholeNumber w d
    if 0 ≤ d then return .int n
    else
      let p := Nat.pow 10 (-d).toNat
      return .int (Numeral.roundQuotient n p * p)
  | .float x, none =>
    if Numeral.isNaN x then valueError "cannot convert float NaN to integer"
    else if Numeral.isInfinite x then fail "OverflowError" "cannot convert float infinity to integer"
    else return .int (Numeral.roundInt x)
  | .float x, some d => return .float (Numeral.roundTo x (← wholeNumber w d))
  | _, d =>
    match ← ask? w v "__round__" d.toList with
    | some r => return r
    | none => typeError ("type " ++ (← typeName v).toList ++ " doesn't define __round__ method")

/-- A power, or what is left of it. -/
def powerOf (w : Ways) (g : Given) : Running Value := do
  let a ← g.required "pow" 0 "base"
  let b ← g.required "pow" 1 "exp"
  match g.some? 2 "mod" with
  | none => operate w .power "** or pow()" a b
  | some m =>
    let x ← wholeNumber w a
    let y ← wholeNumber w b
    let m ← wholeNumber w m
    if m = 0 then valueError "pow() 3rd argument cannot be 0"
    let size := m.natAbs
    let rec go : Nat → Nat → Nat → Nat → Nat
      | 0, _, _, r => r
      | fuel + 1, x, y, r =>
        if y = 0 then r else go fuel (x * x % size) (y / 2) (if y % 2 = 1 then r * x % size else r)
    let base := (x.fmod size).toNat
    if 0 ≤ y then
      let r : Int := go (y.toNat.log2 + 2) base y.toNat (1 % size)
      return .int (if m < 0 ∧ r ≠ 0 then r + m else r)
    else
      match (List.range size).find? fun k => k * base % size == 1 % size with
      | some k =>
        let r : Int := go (y.natAbs.log2 + 2) k y.natAbs (1 % size)
        return .int (if m < 0 ∧ r ≠ 0 then r + m else r)
      | none => valueError "base is not invertible for the given modulus"

/-- A line of the input. -/
def readLine (w : Ways) (g : Given) : Running Value := do
  match g.plain with
  | v :: _ => emit (encode (← strOf w v))
  | [] => pure ()
  flush
  match ← changed? "sys.stdin" with
  | some source =>
    match ← w.call (← w.member source "readline") [] [] with
    | .text [] => fail "EOFError" "EOF when reading a line"
    | .text t => return .text (chomp t)
    | v => return v
  | none =>
    let t ← input
    if t = [] then fail "EOFError" "EOF when reading a line"
    else
      setInput (t.drop (frontLine t))
      return .text (← readableText (chomp (t.take (frontLine t))))

/-- The hash of a value. -/
def hashOf (w : Ways) (v : Value) : Running Int := do
  match hash? (← coreOf v) with
  | some h => return h
  | none =>
    match ← ask? w v "__hash__" [] with
    | some (.int n) => return n
    | _ =>
      let mark ← keyOf w v
      return (mark.foldl (fun h c => (h * 1000003 + c.toNat) % hashModulus) 7 : Nat)

/-- Whether something has an attribute. -/
def hasMember (w : Ways) (v : Value) (name : String) : Running Bool :=
  catching ["AttributeError"] (do
    let _ ← w.member v name
    return true) fun _ => return false

/-- The bits and digits of a whole number. -/
def digitsIn (w : Ways) (base : Nat) (mark : Text) (g : Given) : Running Value := do
  return .text (Numeral.inBase base mark (← wholeNumber w (← g.required "hex" 0 "number")))

/-- The functions that take one value. -/
def unaryFunctions : List String :=
  ["abs", "all", "any", "ascii", "bin", "callable", "chr", "hash", "hex", "id", "len", "oct", "ord", "repr"]

/-- A function that is always there. Those that depend on where they are called are left
out. -/
def builtinCall (w : Ways) (name : String) (g : Given) : Running Value := do
  if unaryFunctions.contains name && g.plain.length != 1 then
    typeError (name.toList ++ "() takes exactly one argument (" ++ Text.decimal g.plain.length ++ " given)")
  let first : Running Value := do
    match g.plain[0]? with
    | some v => return v
    | none => typeError (name.toList ++ "() takes exactly one argument (0 given)")
  match name with
  | "print" => printValues w g
  | "len" => return .int (← lengthOf w (← first))
  | "repr" => return .text (← reprOf w (← first))
  | "ascii" =>
    let t ← reprOf w (← first)
    return .text (t.flatMap fun c => if c.toNat < 127 then [c] else quotedChar ' ' false true c)
  | "abs" => absolute w (← first)
  | "min" => extreme w false name g
  | "max" => extreme w true name g
  | "sum" => total w g
  | "sorted" =>
    let reversed ← match g.named.lookup "reverse" with
      | some v => isTrue w v
      | none => pure false
    makeList (← sorted w (← itemsOf w (← first)) ((g.named.lookup "key").filter fun v => !(v matches .none)) reversed)
  | "any" => anyOf (← iterator w (← first)) true turnLimit
  | "all" => anyOf (← iterator w (← first)) false turnLimit
  | "isinstance" => return .bool (← isInstanceOf w 20 (← first) ((g.plain[1]?).getD .none))
  | "issubclass" =>
    match (g.plain[1]?).getD .none with
    | .tuple ts => return .bool (← ts.anyM (isBelow (← first)))
    | t => return .bool (← isBelow (← first) t)
  | "hasattr" =>
    match (g.plain[1]?).getD .none with
    | .text t => return .bool (← hasMember w (← first) (String.ofList t))
    | _ => typeError "attribute name must be string"
  | "getattr" =>
    match (g.plain[1]?).getD .none with
    | .text t =>
      match g.plain[2]? with
      | some usual => catching ["AttributeError"] (do w.member (← first) (String.ofList t)) fun _ => return usual
      | none => w.member (← first) (String.ofList t)
    | _ => typeError "attribute name must be string"
  | "callable" =>
    let v ← first
    match v with
    | .builtin _ => return .bool true
    | .bound .. => return .bool true
    | .method .. => return .bool true
    | .type _ => return .bool true
    | v =>
      match ← objectOf? v with
      | some (.function _) => return .bool true
      | some (.kind _) => return .bool true
      | some (.prepared ..) => return .bool true
      | some (.made ..) => return .bool (← special? v "__call__").isSome
      | _ => return .bool false
  | "id" =>
    match ← first with
    | .object n => return .int (0x7f1000000000 + 64 * n : Nat)
    | v =>
      let mark ← keyOf w v
      return .int (0x7f0000000000 + (mark.foldl (fun h c => (h * 31 + c.toNat) % 268435456) 7) * 16 : Nat)
  | "hash" => return .int (← hashOf w (← first))
  | "iter" =>
    match g.plain with
    | [f, stop] => makeIterator (.call f stop)
    | _ => iterator w (← first)
  | "next" =>
    let v ← first
    let isOne ← match v with
      | .object n =>
        match ← objectAt? n with
        | some (.iterator _) => pure true
        | some (.generator ..) => pure true
        | some (.file _) => pure true
        | some (.buffer ..) => pure true
        | some (.made ..) => do pure (← special? v "__next__").isSome
        | _ => pure false
      | _ => pure false
    if !isOne then typeError ('\'' :: (← typeName v).toList ++ "' object is not an iterator")
    match ← w.next v with
    | some r => return r
    | none =>
      match g.plain[1]? with
      | some usual => return usual
      | none => stopped v
  | "open" =>
    let mode ← match g.at? 1 "mode" with
      | some (.text m) => pure m
      | some _ => typeError "open() argument 'mode' must be str, not int"
      | none => pure ['r']
    openFile (← g.required name 0 "file") mode
  | "input" => readLine w g
  | "chr" =>
    let n ← wholeNumber w (← first)
    if n < 0 ∨ 0x10ffff < n then valueError "chr() arg not in range(0x110000)"
    return .text [Char.ofNat n.toNat]
  | "ord" =>
    match ← first with
    | .text [c] => return .int c.toNat
    | .bytes [c] => return .int c.toNat
    | .text t => typeError ("ord() expected a character, but string of length " ++ Text.decimal t.length ++ " found")
    | v => typeError ("ord() expected string of length 1, but " ++ (← typeName v).toList ++ " found")
  | "hex" => digitsIn w 16 "0x" g
  | "oct" => digitsIn w 8 "0o" g
  | "bin" => digitsIn w 2 "0b" g
  | "round" => rounded w g
  | "pow" => powerOf w g
  | "divmod" =>
    let a ← first
    let b := (g.plain[1]?).getD .none
    return .tuple [← operate w .floorDivide "divmod()" a b, ← operate w .modulo "divmod()" a b]
  | "format" =>
    match (g.plain[1]?).getD .none with
    | .text t => return .text (← formatted w (← first) t)
    | _ => return .text (← formatted w (← first) [])
  | "vars" => w.member (← first) "__dict__"
  | "exit" => raise (← exception "SystemExit" g.plain [("code", (g.plain[0]?).getD .none)])
  | "quit" => raise (← exception "SystemExit" g.plain [("code", (g.plain[0]?).getD .none)])
  | _ => fail "NotImplementedError" name.toList
where
  /-- Whether a value in something counts as this. -/
  anyOf (it : Value) (wanted : Bool) : Nat → Running Value
    | 0 => return .bool (!wanted)
    | n + 1 => do
      match ← w.next it with
      | none => return .bool (!wanted)
      | some v => if (← isTrue w v) == wanted then return .bool wanted else anyOf it wanted n

/-- The functions for documents. -/
def documentCall (w : Ways) (name : String) (g : Given) : Running Value := do
  let first ← g.required name 0 "obj"
  let textIn (v : Value) : Running Text := do
    match ← coreOf v with
    | .text t => return t
    | .bytes t => decoded t "utf-8" "strict"
    | v => typeError ("the JSON object must be str, bytes or bytearray, not " ++ (← typeName v).toList)
  let withEncoder : Running Given := do
    match (g.named.lookup "cls").filter fun v => !(v matches .none) with
    | none => return g
    | some c =>
      match ← classAttribute? c "default" with
      | some f =>
        let self ← make (.made c [] none)
        return { g with named := ("default", .method f self) :: g.named }
      | none => return g
  match name with
  | "dumps" => return .text (← writtenDocument w first (← withEncoder))
  | "dump" =>
    let t ← writtenDocument w first (← withEncoder)
    printTo w (← g.required name 1 "fp") t
    return .none
  | "loads" => readDocument w (← textIn first) g
  | _ => readDocument w (← textIn (← w.call (← w.member first "read") [] [])) g

/-- The functions for regular expressions. -/
def searchCall (w : Ways) (name : String) (g : Given) : Running Value := do
  match name with
  | "escape" =>
    match (g.plain[0]?).getD .none with
    | .text t =>
      return .text (t.flatMap fun c =>
        if "()[]\x7b\x7d?*+-|^$\\.&~# \t\n\r\x0b\x0c".toList.contains c then ['\\', c] else [c])
    | _ => typeError "expected string or bytes-like object"
  | "purge" => return .none
  | name =>
    let isSub := name = "sub" ∨ name = "subn"
    let flagPlace := if isSub then 4 else if name = "split" then 3 else if name = "compile" then 1 else 2
    let flags ← match g.at? flagPlace "flags" with
      | some v => wholeNumber w v
      | none => pure 0
    let p ← compileSearch (← g.required name 0 "pattern") flags
    if name = "compile" then make (.pattern p)
    else
      let plain := (g.plain.take flagPlace).drop 1
      patternMethod w name p ⟨plain, g.named.filter fun n => n.1 != "flags" && n.1 != "pattern"⟩

end Equate.Shell.Dynamic
