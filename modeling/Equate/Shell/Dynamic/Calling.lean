import Equate.Shell.Dynamic.Member

/-!
# Calls of what scripts find

A method is chosen by the type of its value, a function by the module that it stands in.
-/
namespace Equate.Shell.Dynamic

/-! ## Tracebacks -/

/-- The functions that an exception came through, as they are shown. -/
def shownTrace (w : Ways) (trace : List (String × Nat)) : Text :=
  let one (f : String × Nat) : Text :=
    let source := Numeral.trimmed ((w.lines[f.2 - 1]?).getD [])
    let place : Text := "  File \"".toList ++ w.path ++ "\", line ".toList ++ Text.decimal f.2 ++ ", in ".toList
    let shown : Text := if source = [] then [] else "    ".toList ++ source ++ ['\n']
    place ++ f.1.toList ++ '\n' :: shown
  let more (n : Nat) : Text :=
    if n ≤ 3 then []
    else "  [Previous line repeated " ++ Text.decimal (n - 3) ++ " more time" ++ (if n = 4 then "]\n" else "s]\n")
  let (shown, _, n) := trace.reverse.foldl (fun (done : List Text × Option (String × Nat) × Nat) f =>
      let (shown, last, n) := done
      if last = some f then (if n < 3 then one f :: shown else shown, last, n + 1)
      else (one f :: more n :: shown, some f, 1)) ([], none, 0)
  (more n :: shown).reverse.flatten

/-- An exception in one line. -/
def shownException (w : Ways) (e : Value) : Running Text := do
  let type ← typeOf e
  let name : Text ← match type with
    | .type n => pure n.toList
    | type => do pure (← nameOfType type).toList
  let words ← strOf w e
  return name ++ (if words = [] then [] else ':' :: ' ' :: words) ++ ['\n']

/-- The trace that has been noted for an exception. -/
def notedTrace (fields : List (String × Value)) : List (String × Nat) :=
  match fields.lookup ".trace" with
  | some (.tuple items) => items.filterMap fun i =>
    match i with
    | .tuple [.text f, .int n] => some (String.ofList f, n.toNat)
    | _ => none
  | _ => []

/-- An exception with all it came from. -/
def shownTraceback (w : Ways) : Nat → Value → List (String × Nat) → Running Text
  | 0, _, _ => return []
  | n + 1, e, trace => do
    let fields := match ← fieldsOf? e with
      | some (_, fields, _) => fields
      | none => []
    let before (v : Value) (words : Text) : Running Text := do
      let inner := match ← fieldsOf? v with
        | some (_, fields, _) => notedTrace fields
        | none => []
      return (← shownTraceback w n v inner) ++ ['\n'] ++ words ++ ['\n', '\n']
    let front ← match fields.lookup "__cause__", fields.lookup "__context__" with
      | some .none, _ => pure []
      | some v, _ => before v "The above exception was the direct cause of the following exception:\n"
      | none, some .none => pure []
      | none, some v => before v "During handling of the above exception, another exception occurred:\n"
      | none, none => pure []
    let front := if front.getLast? = some '\n' then front.dropLast else front
    let passed : Text := if trace.isEmpty then [] else "Traceback (most recent call last):\n".toList ++ shownTrace w trace
    return front ++ passed ++ (← shownException w e)

/-! ## Methods -/

/-- An iterator is sent for its next value. -/
def nextOrStop (w : Ways) (it : Value) : Running Value := do
  match ← w.next it with
  | some v => return v
  | none => stopped it

/-- The first type above a class that is not one of a script. -/
def baseOf (type : Value) : Running String := do
  return ((← lineage type).findSome? fun t => match t with
    | .type name => some name
    | _ => none).getD "object"

/-- The types whose values change after they have been made. -/
def growingTypes : List String :=
  ["list", "dict", "set", "defaultdict", "OrderedDict", "Counter", "collections.deque"]

/-- The fields of a record with names. -/
def recordItems (type : Value) (names : List Value) (g : Given) : Running (List Value) := do
  let defaults ← match ← classAttribute? type ".defaults" with
    | some (.tuple vs) => pure vs
    | _ => pure []
  let required := names.length - defaults.length
  let kind ← nameOfType type
  if names.length < g.plain.length then
    let takes : Text := if defaults.isEmpty then Text.decimal (names.length + 1)
      else "from " ++ Text.decimal (required + 1) ++ " to " ++ Text.decimal (names.length + 1)
    typeError (kind.toList ++ ".__new__() takes " ++ takes ++ " positional arguments but " ++
      Text.decimal (g.plain.length + 1) ++ " were given")
  let texts := names.filterMap fun v => match v with
    | .text t => some t
    | _ => none
  match g.named.find? fun (k, _) => !texts.contains k.toList with
  | some (k, _) => typeError (kind.toList ++ ".__new__() got an unexpected keyword argument '" ++ k.toList ++ ['\''])
  | none => pure ()
  let found := texts.zipIdx.map fun (t, i) =>
    (t, ((g.plain[i]?).or (g.named.lookup (String.ofList t))).or
      (if required ≤ i then defaults[i - required]? else none))
  let missing := (found.filter fun f => f.2.isNone).map fun f => '\'' :: f.1 ++ ['\'']
  if !missing.isEmpty then
    let shown := match missing.reverse with
      | [] => []
      | [n] => n
      | [b, a] => a ++ " and " ++ b
      | last :: before => commas before.reverse ++ ", and " ++ last
    typeError (kind.toList ++ ".__new__() missing " ++ Text.decimal missing.length ++ " required positional argument" ++
      (if missing.length = 1 then [] else ['s']) ++ ": " ++ shown)
  return found.filterMap Prod.snd

/-- An instance of a class before the class has its say. -/
def plainInstance (w : Ways) (type : Value) (g : Given) : Running Value := do
  let base ← baseOf type
  if isExceptionName base then
    make (.made type (exceptionFields base g.plain) none)
  else
    match ← classAttribute? type "_fields" with
    | some (.tuple names) => make (.made type [] (some (.tuple (← recordItems type names g))))
    | _ =>
      if growingTypes.contains base then
        let own := (← classAttribute? type "__init__").isSome
        make (.made type [] (some (← makeOfType w base (if own then ⟨[], []⟩ else g))))
      else if base = "object" ∨ base = "Enum" ∨ base = "IntEnum" then make (.made type [] none)
      else
        match ← objectOf? (← makeOfType w base g) with
        | some (.made _ fields core) => make (.made type fields core)
        | _ => make (.made type [] (some (← makeOfType w base g)))

/-- A method that all values have. -/
def generalMethod (w : Ways) (name : String) (self : Value) (g : Given) : Running Value := do
  let first := (g.plain[0]?).getD .none
  match name with
  | "__repr__" => return .text (← reprOf w self)
  | "__str__" => return .text (← strOf w self)
  | ".repr" => plainRepr
  | ".str" => plainRepr
  | "__eq__" => return .bool (← areEqual w self first)
  | ".eq" => return if isSame self first then .bool true else .notImplemented
  | "__ne__" => return .bool (!(← areEqual w self first))
  | "__hash__" => return .int (← hashOf w self)
  | ".hash" => return match self with
      | .object n => .int n
      | _ => .int 0
  | ".nothing" => return .none
  | "__format__" =>
    match first with
    | .text t => return .text (← formatted w self t)
    | _ => return .text (← strOf w self)
  | "__iter__" => iterator w self
  | "__next__" => nextOrStop w self
  | "__len__" => return .int (← lengthOf w self)
  | "__getitem__" => itemAt w self first
  | "__contains__" => return .bool (← isWithin w self first)
  | "__getattribute__" =>
    match first with
    | .text t => w.member self (String.ofList t)
    | _ => return .none
  | "__setattr__" =>
    match first, self with
    | .text t, .object n =>
      modify fun m => { m with store := m.store.modify n fun
        | .made type fields core => .made type (setField (String.ofList t) ((g.plain[1]?).getD .none) fields) core
        | o => o }
      return .none
    | _, _ => return .none
  | "__init__" =>
    match self with
    | .object n =>
      match ← objectAt? n with
      | some (.made type fields core) =>
        if ← isBelow type (.type "BaseException") then
          setObject n (.made type (setField "args" (.tuple g.plain) fields) core)
        else
          match core with
          | some (.object k) =>
            match ← objectAt? k, g.plain with
            | some (.list _), v :: _ => setObject k (.list (← itemsOf w v).toArray)
            | some (.dict t kind f), _ =>
              let entries ← entriesOf w g
              setObject k (.dict (entries.foldl (fun t (m, key, v) => t.put m key v) t) kind f)
            | some (.set _ frozen), v :: _ => setObject k (.set (← tableOfItems w (← itemsOf w v)) frozen)
            | _, _ => pure ()
          | _ => pure ()
      | _ => pure ()
      return .none
    | _ => return .none
  | "mro" => makeList (← lineage self)
  | "with_traceback" => return self
  | "add_note" => return .none
  | "default" => typeError ("Object of type " ++ (← typeName first).toList ++ " is not JSON serializable")
  | "encode" => return .text (← writtenDocument w first ⟨[], []⟩)
  | "indices" =>
    match self, first with
    | .slice a b c, .int n =>
      let step ← match c with
        | .none => pure 1
        | c => wholeNumber w c
      let clamp (low high k : Int) : Int := max low (min high (if k < 0 then k + n else k))
      let bound (v : Value) (usual : Int) : Running Int := do
        match v with
        | .none => return usual
        | v =>
          let k ← wholeNumber w v
          return if 0 < step then clamp 0 n k else clamp (-1) (n - 1) k
      return .tuple [.int (← bound a (if 0 < step then 0 else n - 1)), .int (← bound b (if 0 < step then n else -1)), .int step]
    | _, _ => return .none
  | name => fail "AttributeError" ('\'' :: (← typeName self).toList ++ "' object has no attribute '" ++ name.toList ++ ['\''])
where
  /-- An instance as it is shown if its class says nothing. -/
  plainRepr : Running Value := do
    match self with
    | .object n =>
      match ← objectAt? n with
      | some (.made type _ core) =>
        match core with
        | some c => return .text (← reprOf w c)
        | none =>
          if ← isBelow type (.type "BaseException") then
            if name = ".str" then
              match ← argumentsOf self with
              | [] => return .text []
              | [v] => return .text (← strOf w v)
              | all => return .text (← reprOf w (.tuple all))
            else
              return .text ((← nameOfType type).toList ++ '(' :: commas (← (← argumentsOf self).mapM (reprOf w)) ++ [')'])
          else return .text ("<" ++ (← fullTypeName type) ++ " object at " ++ addressOf n ++ ['>'])
      | _ => return .text []
    | v => return .text (← reprOf w v)

/-- A method of a record with names. -/
def recordMethod (w : Ways) (name : String) (type : Value) (items : List Value) (g : Given) : Running Value := do
  let names ← match ← classAttribute? type "_fields" with
    | some (.tuple names) => pure names
    | _ => pure []
  match name with
  | "_asdict" =>
    makeDict ((names.zip items).foldl (fun (t : Table) (k, v) =>
      match k with
      | .text n => t.put ('t' :: n) k v
      | _ => t) .empty)
  | "_replace" =>
    let changed := (names.zip items).map fun (k, v) =>
      match k with
      | .text n => (g.named.lookup (String.ofList n)).getD v
      | _ => v
    make (.made type [] (some (.tuple changed)))
  | _ => tupleMethod w name items g

/-- A method of a value of a type that scripts find. -/
def methodCall (w : Ways) (name : String) (self : Value) (g : Given) : Running Value := do
  let general : Running Value := generalMethod w name self g
  match self with
  | .text t => if textMethods.contains name then textMethod w false name t g else general
  | .bytes t => if bytesMethods.contains name then textMethod w true name t g else general
  | .int _ => if intMethods.contains name then numberMethod w name self g else general
  | .bool _ => if intMethods.contains name then numberMethod w name self g else general
  | .float _ => if floatMethods.contains name then numberMethod w name self g else general
  | .tuple items => if ["count", "index", "__len__"].contains name then tupleMethod w name items g else general
  | .range a b c =>
    match name with
    | "count" => return .int (if ← isWithin w ((g.plain[0]?).getD .none) self then 1 else 0)
    | "index" => tupleMethod w name (rangeItems (rangeLength a b c) a b c) g
    | _ => general
  | .type t =>
    match name, g.plain with
    | "__new__", type :: rest =>
      match type with
      | .object _ => plainInstance w type { g with plain := rest }
      | type => w.call type rest g.named
    | "__init__", self :: rest => generalMethod w name self { g with plain := rest }
    | "__new__", [] => makeOfType w t g
    | _, _ => general
  | .object n =>
    match ← objectAt? n with
    | none => general
    | some x =>
      match x with
      | .list items => if listMethods.contains name then listMethod w n name items g else general
      | .deque items most => if dequeMethods.contains name then dequeMethod w n name items most g else general
      | .dict t kind f => if ("move_to_end" :: counterMethods).contains name then dictMethod w n name t kind f g else general
      | .set t frozen => if setMethods.contains name then setMethod w n name t frozen g else general
      | .file f => fileMethod w n name f g
      | .buffer content position binary => bufferMethod w n name content position binary g
      | .pattern p => if patternMethods.contains name then patternMethod w name p g else general
      | .found p text f => if foundMethods.contains name then foundMethod w name p text f self g else general
      | .generator .. =>
        match name with
        | "send" => sent n false ((g.plain[0]?).getD .none)
        | "throw" =>
          let e ← match g.plain with
            | [e] => match e with
              | .type _ => w.call e [] []
              | e => pure e
            | _ :: e :: _ => pure e
            | [] => pure .none
          sent n true e
        | "close" => close n
        | _ => general
      | .property get set =>
        match name with
        | "setter" => make (.property get ((g.plain[0]?).getD .none))
        | "getter" => make (.property ((g.plain[0]?).getD .none) set)
        | _ => return self
      | .kind _ =>
        match name with
        | "__new__" => plainInstance w ((g.plain[0]?).getD self) { g with plain := g.plain.tail }
        | "_make" => make (.made self [] (some (.tuple (← itemsOf w ((g.plain[0]?).getD .none)))))
        | "__init__" => return .none
        | _ => general
      | .made type fields core => madeMethod n type fields core general
      | _ => general
  | _ => general
where
  /-- A function that yields goes on. -/
  sent (n : Nat) (raised : Bool) (v : Value) : Running Value := do
    match ← w.resume n raised v with
    | some r => return r
    | none => stopped self
  /-- A function that yields comes to its end. -/
  close (n : Nat) : Running Value := do
    match ← objectAt? n with
    | some (.generator _ [] _ _) => return .none
    | _ =>
      let e ← exception "GeneratorExit" [] []
      catching ["GeneratorExit", "StopIteration"] (do
        let _ ← w.resume n true e
        return .none) fun _ => return .none
  /-- A method of an instance of a type that scripts find. -/
  madeMethod (n : Nat) (type : Value) (fields : List (String × Value)) (core : Option Value)
      (general : Running Value) : Running Value := do
    match ← classAttribute? type "_fields", core with
    | some (.tuple _), some (.tuple items) =>
      if name = "_asdict" ∨ name = "_replace" ∨ name = "count" ∨ name = "index" then
        recordMethod w name type items g
      else general
    | _, _ =>
      match core with
      | some (.text t) =>
        if (← isBelow type (.type "pathlib.PosixPath")) && pathMethods.contains name then pathMethod w name t g else general
      | _ =>
        match type with
        | .type "subprocess.Popen" => startedMethod w n name fields g
        | .type "subprocess.CompletedProcess" =>
          match fields.lookup "returncode" with
          | some (.int 0) => return .none
          | some (.int k) =>
            commandFailed w ((fields.lookup "args").getD .none) k ((fields.lookup "stdout").getD .none)
              ((fields.lookup "stderr").getD .none)
          | _ => return .none
        | .type "_hashlib.HASH" => if digestMethods.contains name then digestMethod n name fields g else general
        | .type "functools._lru_cache_wrapper" =>
          match name, fields.lookup ".cache" with
          | "cache_clear", some (.object k) =>
            setObject k (.dict .empty "dict" .none)
            setObject n (.made type (setField ".hits" (.int 0) (setField ".misses" (.int 0) fields)) core)
            return .none
          | "cache_info", some (.object k) =>
            let count := match ← objectAt? k with
              | some (.dict t _ _) => t.size
              | _ => 0
            let names := ["hits", "misses", "maxsize", "currsize"]
            let kind ← recordClass "CacheInfo" (names.map String.toList) []
            make (.made kind [] (some (.tuple [(fields.lookup ".hits").getD (.int 0), (fields.lookup ".misses").getD (.int 0),
              (fields.lookup "maxsize").getD .none, .int count])))
          | _, _ => general
        | .type "contextlib.manager" => managed fields general
        | .type "random.Random" => if randomFunctions.contains name then randomCall w name g else general
        | .type "string.Template" => general
        | _ => general
  /-- What is entered and left by a function that yields once. -/
  managed (fields : List (String × Value)) (general : Running Value) : Running Value := do
    match name, fields.lookup "gen" with
    | "__enter__", some gen => nextOrStop w gen
    | "__exit__", some gen =>
      match g.plain, gen with
      | _ :: .none :: _, _ =>
        let _ ← w.next gen
        return .bool false
      | _ :: e :: _, .object k =>
        catching ["StopIteration"] (do
          let _ ← w.resume k true e
          return .bool true) fun _ => return .bool true
      | _, _ => return .bool false
    | _, _ => general

/-! ## Records -/

/-- The fields of a record class: names, whether there is a usual value, that value, what makes
one, and whether the field is set, shown and compared. -/
structure RecordField where
  name : Text
  usual : Option Value
  maker : Option Value
  isSet : Bool
  isShown : Bool
  isCompared : Bool

/-- A field as a value. -/
def RecordField.toValue (f : RecordField) : Value :=
  .tuple [.text f.name, .bool f.usual.isSome, f.usual.getD .none, .bool f.maker.isSome, f.maker.getD .none,
    .bool f.isSet, .bool f.isShown, .bool f.isCompared]

/-- A value as a field. -/
def RecordField.ofValue : Value → Option RecordField
  | .tuple [.text name, .bool hasUsual, usual, .bool hasMaker, maker, .bool isSet, .bool isShown, .bool isCompared] =>
    some ⟨name, if hasUsual then some usual else none, if hasMaker then some maker else none, isSet, isShown, isCompared⟩
  | _ => none

/-- The fields of a record class. -/
def recordFields (type : Value) : Running (List RecordField) := do
  match ← classAttribute? type ".fields" with
  | some (.tuple fs) => return fs.filterMap RecordField.ofValue
  | _ => return []

/-- A class becomes one of records. -/
def makeRecordClass (w : Ways) (type : Value) (options : List (String × Value)) : Running Value := do
  let flag (name : String) (usual : Bool) : Running Bool := do
    match options.lookup name with
    | some v => isTrue w v
    | none => return usual
  match type, ← objectOf? type with
  | .object n, some (.kind k) =>
    let inherited ← match k.bases with
      | b :: _ => recordFields b
      | [] => pure []
    let names ← match k.fields.lookup "__annotations__" with
      | some d =>
        match ← objectOf? d with
        | some (.dict t _ _) => pure (t.keys.filterMap fun k => match k with
            | .text t => some t
            | _ => none)
        | _ => pure []
      | none => pure []
    let own ← names.mapM fun name => do
      match k.fields.lookup (String.ofList name) with
      | none => return (⟨name, none, none, true, true, true⟩ : RecordField)
      | some v =>
        match ← objectOf? v with
        | some (.made (.type "dataclasses.Field") fs _) =>
          let set (key : String) : Bool := !((fs.lookup key) matches some (.bool false))
          return ⟨name, fs.lookup "default", fs.lookup "default_factory", set "init", set "repr", set "compare"⟩
        | some (.list _) => refuseMutable "list" name
        | some (.dict ..) => refuseMutable "dict" name
        | some (.set ..) => refuseMutable "set" name
        | _ => return ⟨name, some v, none, true, true, true⟩
    let all := inherited.filter (fun f => !own.any fun o => o.name == f.name) ++ own
    let add (name : String) (fs : List (String × Value)) : List (String × Value) :=
      if (k.fields.lookup name).isSome then fs else setField name (.builtin ("dataclasses." ++ name)) fs
    let fs := k.fields.filterMap fun (name, v) =>
      match own.find? fun f => f.name == name.toList with
      | some f => f.usual.map fun u => (name, u)
      | none => some (name, v)
    let fs := setField ".fields" (.tuple (all.map RecordField.toValue)) fs
    let fs := setField "__match_args__" (.tuple (all.map fun f => .text f.name)) fs
    let fs := if ← flag "init" true then add "__init__" fs else fs
    let fs := if ← flag "repr" true then add "__repr__" fs else fs
    let fs := if ← flag "eq" true then add "__eq__" fs else fs
    let fs := if ← flag "order" false then
        ["__lt__", "__le__", "__gt__", "__ge__"].foldl (fun fs m => add m fs) fs else fs
    let frozen ← flag "frozen" false
    let fs := if frozen then setField ".frozen" (.bool true) (add "__hash__" fs) else fs
    let fs := if !frozen && (k.fields.lookup "__hash__").isNone && (← flag "eq" true) then setField "__hash__" .none fs else fs
    setObject n (.kind { k with fields := fs })
    return type
  | _, _ => return type
where
  /-- A usual value that could change is refused. -/
  refuseMutable (kind : String) (name : Text) : Running RecordField :=
    valueError ("mutable default <class '" ++ kind.toList ++ "'> for field " ++ name ++
      " is not allowed: use default_factory")

/-- A function for records. -/
def recordCall (w : Ways) (name : String) (g : Given) : Running Value := do
  let self := (g.plain[0]?).getD .none
  let field (v : Value) (f : RecordField) : Running Value := w.member v (String.ofList f.name)
  let compared (v : Value) : Running Value := do
    let fs ← recordFields (← typeOf v)
    return .tuple (← (fs.filter RecordField.isCompared).mapM (field v))
  let ordered (c : Comparison) : Running Value := do
    let other := (g.plain[1]?).getD .none
    if isSame (← typeOf self) (← typeOf other) then
      return .bool (← isOrdered w c compareDepth (← compared self) (← compared other))
    else return .notImplemented
  match name with
  | "dataclass" =>
    match g.plain with
    | [] => make (.prepared (.builtin "dataclasses._made") [] g.named)
    | v :: _ => makeRecordClass w v g.named
  | "_made" => makeRecordClass w self g.named
  | "field" => make (.made (.type "dataclasses.Field") g.named none)
  | "__init__" =>
    let type ← typeOf self
    let fs ← recordFields type
    let settable := fs.filter RecordField.isSet
    let given := g.plain.tail
    if settable.length < given.length then
      typeError ((← nameOfType type).toList ++ ".__init__() takes from 1 to " ++ Text.decimal (settable.length + 1) ++
        " positional arguments but " ++ Text.decimal (given.length + 1) ++ " were given")
    match g.named.find? fun (k, _) => !settable.any fun f => f.name == k.toList with
    | some (k, _) => typeError ((← nameOfType type).toList ++ ".__init__() got an unexpected keyword argument '" ++ k.toList ++ ['\''])
    | none => pure ()
    let values ← fs.mapM fun f => do
      let position := settable.findIdx? fun s => s.name == f.name
      match (position.bind fun i => given[i]?).or (if f.isSet then g.named.lookup (String.ofList f.name) else none) with
      | some v => return (f.name, some v)
      | none =>
        match f.maker, f.usual with
        | some m, _ => return (f.name, some (← w.call m [] []))
        | none, u => return (f.name, u)
    let missing := (values.filter fun (n, v) => v.isNone && (settable.any fun f => f.name == n)).map Prod.fst
    if !missing.isEmpty then
      typeError ((← nameOfType type).toList ++ ".__init__() missing " ++ Text.decimal missing.length ++
        " required positional argument" ++ (if missing.length = 1 then [] else ['s']) ++ ": " ++ listedNames missing)
    match self with
    | .object n =>
      modify fun m => { m with store := m.store.modify n fun
        | .made t old core => .made t (values.foldl (fun fs (k, v) =>
            match v with
            | some v => setField (String.ofList k) v fs
            | none => fs) old) core
        | o => o }
    | _ => pure ()
    match ← special? self "__post_init__" with
    | some f =>
      let _ ← w.call f [self] []
    | none => pure ()
    return .none
  | "__repr__" =>
    let type ← typeOf self
    let parts ← ((← recordFields type).filter RecordField.isShown).mapM fun f => do
      return f.name ++ '=' :: (← reprOf w (← field self f))
    return .text ((← nameOfType type).toList ++ '(' :: commas parts ++ [')'])
  | "__eq__" =>
    let other := (g.plain[1]?).getD .none
    if isSame (← typeOf self) (← typeOf other) then return .bool (← areEqual w (← compared self) (← compared other))
    else return .notImplemented
  | "__lt__" => ordered .less
  | "__le__" => ordered .lessOrEqual
  | "__gt__" => ordered .greater
  | "__ge__" => ordered .greaterOrEqual
  | "__hash__" => return .int (← hashOf w (← compared self))
  | "asdict" => asTable 50 self
  | "astuple" =>
    return .tuple (← (← recordFields (← typeOf self)).mapM (field self))
  | "replace" =>
    let type ← typeOf self
    let values ← (← recordFields type).mapM fun f => do
      match g.named.lookup (String.ofList f.name) with
      | some v => return (String.ofList f.name, v)
      | none => return (String.ofList f.name, ← field self f)
    w.call type [] values
  | "fields" =>
    let type ← match ← objectOf? self with
      | some (.kind _) => pure self
      | _ => typeOf self
    return .tuple (← (← recordFields type).mapM fun f => do
      make (.made (.type "dataclasses.Field") [("name", .text f.name), ("default", f.usual.getD .none)] none))
  | "is_dataclass" =>
    let type ← match ← objectOf? self with
      | some (.kind _) => pure self
      | _ => typeOf self
    return .bool (← classAttribute? type ".fields").isSome
  | _ => return .none
where
  /-- Names with commas and a word between them. -/
  listedNames (names : List Text) : Text :=
    let quoted := names.map fun n => '\'' :: n ++ ['\'']
    match quoted.reverse with
    | [] => []
    | [n] => n
    | [b, a] => a ++ " and " ++ b
    | last :: before => commas before.reverse ++ ", and " ++ last
  /-- A record as a table, with the records in it. -/
  asTable : Nat → Value → Running Value
    | 0, v => return v
    | n + 1, v => do
      let type ← typeOf v
      if (← classAttribute? type ".fields").isSome then
        let entries ← (← recordFields type).mapM fun f => do
          return (f.name, ← asTable n (← w.member v (String.ofList f.name)))
        makeDict (entries.foldl (fun (t : Table) (k, x) => t.put ('t' :: k) (.text k) x) .empty)
      else
        match v with
        | .tuple items => return .tuple (← items.mapM (asTable n))
        | v =>
          match ← objectOf? v with
          | some (.list items) => makeList (← items.toList.mapM (asTable n))
          | some (.dict t kind f) =>
            let values ← t.values.mapM (asTable n)
            make (.dict ((t.marks.zip (t.keys.zip values)).foldl (fun (r : Table) (m, k, x) => r.put m k x) .empty) kind f)
          | _ => return v

/-! ## Modules -/

/-- A function of the system module. -/
def scriptCall (w : Ways) (name : String) (g : Given) : Running Value := do
  match name with
  | "exit" => raise (← exception "SystemExit" g.plain [("code", (g.plain[0]?).getD .none)])
  | "getrecursionlimit" => return .int 1000
  | "exc_info" =>
    match (← get).handled with
    | (e, _) :: _ => return .tuple [← typeOf e, e, .none]
    | [] => return .tuple [.none, .none, .none]
  | "getsizeof" => return .int 64
  | "intern" => return (g.plain[0]?).getD .none
  | "getdefaultencoding" => return .text "utf-8"
  | "getfilesystemencoding" => return .text "utf-8"
  | _ =>
    let _ := w
    return .none

/-- A function of some other module. -/
def otherCall (w : Ways) (m name : String) (g : Given) : Running Value := do
  let first := (g.plain[0]?).getD .none
  match m, name with
  | "string", "capwords" =>
    match first with
    | .text t => return .text (Text.joinWith [' '] ((splitGaps (t.length + 1) none t).map fun p =>
        upper (p.take 1) ++ lower (p.drop 1)))
    | _ => typeError "capwords() requires a string"
  | "textwrap", "dedent" =>
    match first with
    | .text t => return .text (dedented t)
    | _ => typeError "expected string or bytes-like object"
  | "textwrap", "wrap" => makeList ((← wrapped w g).map Value.text)
  | "textwrap", "fill" => return .text (Text.joinWith ['\n'] (← wrapped w g))
  | "textwrap", "indent" =>
    match first, (g.plain[1]?).getD .none with
    | .text t, .text p =>
      return .text ((fullLines t).flatMap fun l => if l.all isGap then l else p ++ l)
    | _, _ => typeError "indent() requires strings"
  | "copy", "copy" => shallowCopy w first
  | "copy", _ => return (← deepCopy w 200 first []).1
  | "enum", "auto" => make (.made (.type "enum.auto") [] none)
  | "contextlib", "contextmanager" => make (.prepared (.builtin "contextlib._manager") [first] [])
  | "contextlib", "_manager" =>
    let gen ← w.call first g.plain.tail g.named
    make (.made (.type "contextlib.manager") [("gen", gen)] none)
  | "contextlib", "suppress" => make (.made (.type "contextlib.suppress") [("types", .tuple g.plain)] none)
  | "contextlib", "nullcontext" => make (.made (.type "contextlib.nullcontext") [("value", first)] none)
  | "contextlib", "closing" => make (.made (.type "contextlib.closing") [("value", first)] none)
  | "contextlib", "redirect_stdout" => make (.made (.type "contextlib.redirect") [("value", first), ("name", .text "sys.stdout")] none)
  | "contextlib", "redirect_stderr" => make (.made (.type "contextlib.redirect") [("value", first), ("name", .text "sys.stderr")] none)
  | "typing", "cast" => return (g.plain[1]?).getD .none
  | "typing", "TypeVar" => return .type "typing.TypeVar"
  | "typing", "NewType" => return (g.plain[1]?).getD .none
  | "typing", _ => return first
  | "enum", _ => return first
  | "abc", _ =>
    match first with
    | .object n =>
      modify fun s => { s with settings := setField ("@" ++ toString n ++ ".__isabstractmethod__") (.bool true) s.settings }
    | _ => pure ()
    return first
  | "traceback", "format_exc" => return .text (← current)
  | "traceback", _ =>
    complainWith (← current)
    return .none
  | "warnings", "warn" =>
    return .none
  | "atexit", _ =>
    modify fun s => { s with atExit := (first, g.plain.tail, g.named) :: s.atExit }
    return first
  | "platform", "system" => return .text "Linux"
  | "platform", "machine" => return .text "x86_64"
  | "platform", "python_version" => return .text "3.11.10"
  | "shutil", "which" =>
    match ← (pathOfProgram (encode (← pathOf first)) : Act (Except Obstacle Octets)) with
    | .ok path => return .text (decode path)
    | .error _ => return .none
  | "shutil", "rmtree" =>
    let all ← (files : Act Files)
    match all.entryItself (← pathOf first) with
    | .ok (place, .directory) =>
      (setFiles (all.removeAll place) : Act Unit)
      return .none
    | .ok _ => failAt .notDirectory (some first)
    | .error obstacle => failAt obstacle (some first)
  | "shutil", "move" => systemCall w "rename" g
  | "shutil", _ =>
    let source ← openFile first ['r', 'b']
    let content ← w.call (← w.member source "read") [] []
    let target := (g.plain[1]?).getD .none
    let target ← match ← entryAt (← pathOf target) with
      | .ok .directory => pure (Value.text (joinPaths (← pathOf target) [(splitPath (← pathOf first)).2]))
      | _ => pure target
    let sink ← openFile target ['w', 'b']
    let _ ← w.call (← w.member sink "write") [content] []
    return target
  | _, _ => return .none
where
  /-- The exception that is being handled, with its traceback. -/
  current : Running Text := do
    match (← get).handled with
    | (e, t) :: _ => shownTraceback w 10 e t
    | [] => return "NoneType: None\n"

/-- A function that scripts find. -/
def functionCallOf (w : Ways) (full : String) (g : Given) : Running Value := do
  match full.splitOn ":" with
  | ["type", t, name] =>
    match t, name with
    | "dict", "fromkeys" => dictMethod.fromKeys w g
    | "str", "maketrans" => textMethod w false name [] g
    | "bytes", "fromhex" =>
      match (g.plain[0]?).getD .none with
      | .text s => return .bytes (bytesOfHex (s.filter fun c => !isGap c))
      | _ => typeError "fromhex() argument must be str"
    | "int", "from_bytes" =>
      match (g.plain[0]?).getD .none with
      | .bytes s =>
        let little := match g.at? 1 "byteorder" with
          | some (.text o) => o == "little".toList
          | _ => false
        return .int ((if little then s.reverse else s).foldl (fun n c => n * 256 + c.toNat) (0 : Nat))
      | _ => typeError "cannot convert object to bytes"
    | "pathlib.PosixPath", "cwd" => makePath (← workingDirectory)
    | "pathlib.PosixPath", "home" => makePath "/root"
    | _, _ =>
      match g.plain with
      | self :: rest => methodCall w name (← coreOf self) { g with plain := rest }
      | [] => typeError ("unbound method " ++ t.toList ++ '.' :: name.toList ++ "() needs an argument")
  | _ =>
    match full.splitOn "." with
    | [name] => builtinCall w name g
    | ["os", "path", name] => pathCall w name g
    | ["itertools", "chain", _] => iteratorCall w "chain.from_iterable" g
    | "functools" :: rest => functionCall w (".".intercalate rest) g
    | [m, name] =>
      match m with
      | "math" => mathCall w name g
      | "json" => documentCall w name g
      | "sys" => scriptCall w name g
      | "os" => systemCall w name g
      | "signal" => signalCall w name g
      | "time" => clockCall w name g
      | "random" => randomCall w name g
      | "re" => searchCall w name g
      | "itertools" => iteratorCall w name g
      | "collections" => collectionCall w name g
      | "subprocess" => programCall w name g
      | "operator" => operatorCall w name g
      | "statistics" => statisticsCall w name g
      | "hashlib" => digestCall name g
      | "base64" => digitsCall name g
      | "binascii" => digitsCall name g
      | "bisect" => orderCall w name g
      | "heapq" => orderCall w name g
      | "dataclasses" => recordCall w name g
      | m => otherCall w m name g
    | _ => return .none

end Equate.Shell.Dynamic
