import Equate.Shell.Dynamic.Textual

/-!
# Methods of lists, tables and sets

A method that changes its object puts the changed one in its place. Tables of counts and
queues have some methods more.
-/
namespace Equate.Shell.Dynamic

/-- The methods of lists. -/
def listMethods : List String :=
  ["append", "extend", "insert", "remove", "pop", "clear", "index", "count", "sort", "reverse", "copy",
    "__len__", "__getitem__", "__contains__", "__iter__", "__setitem__"]

/-- The methods of queues. -/
def dequeMethods : List String :=
  ["append", "appendleft", "extend", "extendleft", "pop", "popleft", "clear", "rotate", "remove", "count",
    "index", "copy", "reverse", "insert", "__len__"]

/-- The methods of tables. -/
def dictMethods : List String :=
  ["get", "keys", "values", "items", "pop", "popitem", "setdefault", "update", "clear", "copy", "fromkeys",
    "__len__", "__getitem__", "__contains__", "__iter__", "__setitem__", "__delitem__"]

/-- The methods of tables of counts. -/
def counterMethods : List String := dictMethods ++ ["most_common", "elements", "subtract", "total"]

/-- The methods of sets. -/
def setMethods : List String :=
  ["add", "remove", "discard", "pop", "clear", "copy", "update", "union", "intersection", "difference",
    "symmetric_difference", "issubset", "issuperset", "isdisjoint", "intersection_update",
    "difference_update", "symmetric_difference_update", "__len__", "__contains__", "__iter__"]

/-- The position of a value among some, from a position on. -/
def indexAmong (w : Ways) (v : Value) : Nat → List Value → Running (Option Nat)
  | _, [] => return none
  | i, u :: rest => do if ← sameOrEqual w u v then return some i else indexAmong w v (i + 1) rest

/-- How often a value is among some. -/
def countAmong (w : Ways) (v : Value) (items : List Value) : Running Nat :=
  items.foldlM (fun n u => do return if ← sameOrEqual w u v then n + 1 else n) 0

/-- A position to insert something at. -/
def insertPosition (size : Nat) (n : Int) : Nat :=
  (max 0 (min (size : Int) (if n < 0 then n + size else n))).toNat

/-- The position where a search in a list begins or ends. -/
def searchBound (w : Ways) (size : Nat) (v : Option Value) (usual : Nat) : Running Nat := do
  match v with
  | some v => return insertPosition size (← wholeNumber w v)
  | none => return usual

/-- A method of a list. -/
def listMethod (w : Ways) (n : Nat) (name : String) (items : Array Value) (g : Given) : Running Value := do
  let put (items : Array Value) : Running Value := do
    setObject n (.list items)
    return .none
  match name with
  | "append" =>
    let v ← g.required name 0 "object"
    modify fun m => { m with store := m.store.modify n fun
      | .list all => .list (all.push v)
      | o => o }
    return .none
  | "extend" =>
    let more ← itemsOf w (← g.required name 0 "iterable")
    put (more.foldl Array.push items)
  | "insert" =>
    let i := insertPosition items.size (← wholeNumber w (← g.required name 0 "index"))
    let v ← g.required name 1 "object"
    put ((items.toList.take i ++ v :: items.toList.drop i).toArray)
  | "remove" =>
    match ← indexAmong w (← g.required name 0 "value") 0 items.toList with
    | some i => put (items.eraseIdxIfInBounds i)
    | none => valueError "list.remove(x): x not in list"
  | "pop" =>
    if items.isEmpty then fail "IndexError" "pop from empty list"
    let i ← match g.at? 0 "index" with
      | some v => wholeNumber w v
      | none => pure (-1)
    match positionOf items.size i with
    | some i =>
      let v := (items[i]?).getD .none
      let _ ← put (if i + 1 = items.size then items.pop else items.eraseIdxIfInBounds i)
      return v
    | none => fail "IndexError" "pop index out of range"
  | "clear" => put #[]
  | "index" =>
    let v ← g.required name 0 "value"
    let first ← searchBound w items.size (g.at? 1 "start") 0
    let last ← searchBound w items.size (g.at? 2 "stop") items.size
    match ← indexAmong w v first ((items.toList.take last).drop first) with
    | some i => return .int i
    | none => valueError ((← reprOf w v) ++ " is not in list")
  | "count" => return .int (← countAmong w (← g.required name 0 "value") items.toList)
  | "sort" =>
    let reversed ← match g.named.lookup "reverse" with
      | some v => isTrue w v
      | none => pure false
    let key := (g.named.lookup "key").filter fun v => !(v matches .none)
    if !g.plain.isEmpty then typeError "sort() takes no positional arguments"
    put (← sorted w items.toList key reversed).toArray
  | "reverse" => put items.reverse
  | "copy" => make (.list items)
  | "__len__" => return .int items.size
  | "__getitem__" => itemAt w (.object n) (← g.required name 0 "index")
  | "__setitem__" =>
    setItem w (.object n) (← g.required name 0 "index") (← g.required name 1 "value")
    return .none
  | "__contains__" => return .bool (← isWithin w (← g.required name 0 "key") (.object n))
  | "__iter__" => iterator w (.object n)
  | _ => return .none

/-- A method of a queue. -/
def dequeMethod (w : Ways) (n : Nat) (name : String) (items : Array Value) (most : Option Nat) (g : Given) :
    Running Value := do
  let put (items : List Value) : Running Value := do
    setObject n (.deque items.toArray most)
    return .none
  let fromRight (items : List Value) : List Value :=
    match most with
    | some k => items.drop (items.length - k)
    | none => items
  let fromLeft (items : List Value) : List Value :=
    match most with
    | some k => items.take k
    | none => items
  let all := items.toList
  match name with
  | "append" => put (fromRight (all ++ [← g.required name 0 "x"]))
  | "appendleft" => put (fromLeft ((← g.required name 0 "x") :: all))
  | "extend" => put (fromRight (all ++ (← itemsOf w (← g.required name 0 "iterable"))))
  | "extendleft" => put (fromLeft ((← itemsOf w (← g.required name 0 "iterable")).reverse ++ all))
  | "pop" =>
    match items.back? with
    | some v =>
      let _ ← put all.dropLast
      return v
    | none => fail "IndexError" "pop from an empty deque"
  | "popleft" =>
    match all with
    | v :: rest =>
      let _ ← put rest
      return v
    | [] => fail "IndexError" "pop from an empty deque"
  | "clear" => put []
  | "rotate" =>
    let k ← match g.at? 0 "n" with
      | some v => wholeNumber w v
      | none => pure 1
    if all.isEmpty then return .none
    else
      let k := (k.fmod all.length).toNat
      put (all.drop (all.length - k) ++ all.take (all.length - k))
  | "remove" =>
    match ← indexAmong w (← g.required name 0 "value") 0 all with
    | some i => put (items.eraseIdxIfInBounds i).toList
    | none => valueError "deque.remove(x): x not in deque"
  | "insert" =>
    let i := insertPosition items.size (← wholeNumber w (← g.required name 0 "index"))
    put (all.take i ++ (← g.required name 1 "object") :: all.drop i)
  | "count" => return .int (← countAmong w (← g.required name 0 "value") all)
  | "index" =>
    let v ← g.required name 0 "value"
    match ← indexAmong w v 0 all with
    | some i => return .int i
    | none => valueError ((← reprOf w v) ++ " is not in deque")
  | "copy" => make (.deque items most)
  | "reverse" => put all.reverse
  | "__len__" => return .int items.size
  | _ => return .none

/-- The entries that arguments give. -/
def entriesOf (w : Ways) (g : Given) : Running (List (Text × Value × Value)) := do
  let named := g.named.map fun (n, v) => ('t' :: n.toList, Value.text n.toList, v)
  match g.plain with
  | [] => return named
  | v :: _ =>
    let first ← match ← objectOf? (← coreOf v) with
      | some (.dict t _ _) => pure (t.marks.zip t.toList)
      | _ =>
        match ← objectOf? v with
        | some (.made ..) =>
          if (← special? v "keys").isSome then
            let keys ← itemsOf w (← w.call (← w.member v "keys") [] [])
            keys.mapM fun k => do return (← keyOf w k, k, ← itemAt w v k)
          else pairs (← itemsOf w v)
        | _ => pairs (← itemsOf w v)
    return first ++ named
where
  /-- Pairs as entries. -/
  pairs (items : List Value) : Running (List (Text × Value × Value)) :=
    items.zipIdx.mapM fun (v, i) => do
      match ← itemsOf w v with
      | [k, x] => return (← keyOf w k, k, x)
      | other => valueError ("dictionary update sequence element #" ++ Text.decimal i ++ " has length " ++
          Text.decimal other.length ++ "; 2 is required")

/-- Values are counted, or counts are added. -/
def addCounts (w : Ways) (t : Table) (g : Given) (sign : Int) : Running Table := do
  let number (t : Table) (mark : Text) : Int := match t.value? mark with
    | some (.int n) => n
    | _ => 0
  let addAll (t : Table) (entries : List (Text × Value × Value)) : Table :=
    entries.foldl (fun t (mark, k, v) =>
      let n := match v with
        | .int n => n
        | _ => 0
      t.put mark k (.int (number t mark + sign * n))) t
  let named := g.named.map fun (n, v) => ('t' :: n.toList, Value.text n.toList, v)
  match g.plain with
  | [] => return addAll t named
  | v :: _ =>
    let t ← match ← objectOf? v with
      | some (.dict u _ _) => pure (addAll t (u.marks.zip u.toList))
      | _ => do
        (← itemsOf w v).foldlM (fun t k => do
          let mark ← keyOf w k
          return t.put mark k (.int (number t mark + sign))) t
    return addAll t named

/-- A method of a table. -/
def dictMethod (w : Ways) (n : Nat) (name : String) (t : Table) (kind : String) (f : Value) (g : Given) :
    Running Value := do
  let put (t : Table) : Running Unit := setObject n (.dict t kind f)
  match name with
  | "get" =>
    let mark ← keyOf w (← g.required name 0 "key")
    return (t.value? mark).getD ((g.at? 1 "default").getD .none)
  | "keys" => return .view "keys" (.object n)
  | "values" => return .view "values" (.object n)
  | "items" => return .view "items" (.object n)
  | "pop" =>
    let key ← g.required name 0 "key"
    let mark ← keyOf w key
    match t.value? mark with
    | some v =>
      put (t.drop mark)
      return v
    | none =>
      match g.at? 1 "default" with
      | some v => return v
      | none => keyError key
  | "popitem" =>
    let last := match g.at? 0 "last" with
      | some (.bool false) => false
      | _ => true
    let marks := t.marks
    match if last then marks.getLast? else marks.head? with
    | some mark =>
      let (k, v) := (t.entry? mark).getD (.none, .none)
      put (t.drop mark)
      return .tuple [k, v]
    | none => fail "KeyError" "popitem(): dictionary is empty"
  | "setdefault" =>
    let key ← g.required name 0 "key"
    let mark ← keyOf w key
    match t.value? mark with
    | some v => return v
    | none =>
      let v := (g.at? 1 "default").getD .none
      put (t.put mark key v)
      return v
  | "update" =>
    if kind = "Counter" then put (← addCounts w t g 1)
    else
      let entries ← entriesOf w g
      put (entries.foldl (fun t (mark, k, v) => t.put mark k v) t)
    return .none
  | "clear" => put .empty; return .none
  | "copy" => make (.dict t kind f)
  | "fromkeys" => fromKeys w g
  | "most_common" =>
    let number (v : Value) : Int := match v with
      | .int n => n
      | _ => 0
    let ordered := t.toList.mergeSort fun a b => number b.2 ≤ number a.2
    let count ← match g.some? 0 "n" with
      | some v => do pure (← wholeNumber w v).toNat
      | none => pure ordered.length
    makeList ((ordered.take count).map fun (k, v) => .tuple [k, v])
  | "elements" =>
    makeIterator (.values (t.toList.flatMap fun (k, v) =>
      match v with
      | .int n => List.replicate n.toNat k
      | _ => []))
  | "subtract" => put (← addCounts w t g (-1)); return .none
  | "total" => return .int (t.values.foldl (fun n v =>
      match v with
      | .int k => n + k
      | _ => n) 0)
  | "move_to_end" =>
    let key ← g.required name 0 "key"
    let mark ← keyOf w key
    match t.entry? mark with
    | some (k, v) =>
      let rest := t.drop mark
      match g.at? 1 "last" with
      | some (.bool false) => put (united ((Table.empty.put mark k v)) rest)
      | _ => put (rest.put mark k v)
      return .none
    | none => keyError key
  | "__len__" => return .int t.size
  | "__getitem__" => itemAt w (.object n) (← g.required name 0 "key")
  | "__setitem__" =>
    setItem w (.object n) (← g.required name 0 "key") (← g.required name 1 "value")
    return .none
  | "__delitem__" => deleteItem w (.object n) (← g.required name 0 "key"); return .none
  | "__contains__" => return .bool (t.has (← keyOf w (← g.required name 0 "key")))
  | "__iter__" => iterator w (.object n)
  | _ => return .none
where
  /-- A table with one value for all keys. -/
  fromKeys (w : Ways) (g : Given) : Running Value := do
    let v := (g.at? 1 "value").getD .none
    let t ← (← itemsOf w (← g.required "fromkeys" 0 "iterable")).foldlM (fun (t : Table) k => do
      return t.put (← keyOf w k) k v) .empty
    makeDict t

/-- A method of a set. -/
def setMethod (w : Ways) (n : Nat) (name : String) (t : Table) (frozen : Bool) (g : Given) : Running Value := do
  let put (t : Table) : Running Value := do
    setObject n (.set t frozen)
    return .none
  let others : Running (List Table) := g.plain.mapM fun v => do
    match ← objectOf? v with
    | some (.set u _) => return u
    | _ => tableOfItems w (← itemsOf w v)
  let other : Running Table := do return ((← others).head?).getD .empty
  match name with
  | "add" =>
    let v ← g.required name 0 "element"
    let mark ← keyOf w v
    modify fun m => { m with store := m.store.modify n fun
      | .set t frozen => .set (if t.has mark then t else t.put mark v .none) frozen
      | o => o }
    return .none
  | "discard" => put (t.drop (← keyOf w (← g.required name 0 "element")))
  | "remove" =>
    let v ← g.required name 0 "element"
    let mark ← keyOf w v
    if t.has mark then put (t.drop mark) else keyError v
  | "pop" =>
    match t.members with
    | v :: _ =>
      let _ ← put (t.drop (← keyOf w v))
      return v
    | [] => fail "KeyError" "pop from an empty set"
  | "clear" => put .empty
  | "copy" => make (.set t frozen)
  | "update" => put ((← others).foldl united t)
  | "union" => make (.set ((← others).foldl united t) frozen)
  | "intersection" => make (.set ((← others).foldl (fun t u => keptIn t u.has) t) frozen)
  | "intersection_update" => put ((← others).foldl (fun t u => keptIn t u.has) t)
  | "difference" => make (.set ((← others).foldl (fun t u => keptIn t fun k => !u.has k) t) frozen)
  | "difference_update" => put ((← others).foldl (fun t u => keptIn t fun k => !u.has k) t)
  | "symmetric_difference" =>
    let u ← other
    make (.set (united (keptIn t fun k => !u.has k) (keptIn u fun k => !t.has k)) frozen)
  | "symmetric_difference_update" =>
    let u ← other
    put (united (keptIn t fun k => !u.has k) (keptIn u fun k => !t.has k))
  | "issubset" =>
    let u ← other
    return .bool (t.marks.all u.has)
  | "issuperset" =>
    let u ← other
    return .bool (u.marks.all t.has)
  | "isdisjoint" =>
    let u ← other
    return .bool (!t.marks.any u.has)
  | "__len__" => return .int t.size
  | "__contains__" => return .bool (t.has (← keyOf w (← g.required name 0 "key")))
  | "__iter__" => iterator w (.object n)
  | _ => return .none

/-! ## Numbers and tuples -/

/-- The methods of whole numbers. -/
def intMethods : List String :=
  ["bit_length", "bit_count", "to_bytes", "from_bytes", "conjugate", "as_integer_ratio", "__add__", "__index__",
    "real", "imag", "numerator", "denominator", "is_integer"]

/-- The methods of numbers. -/
def floatMethods : List String :=
  ["is_integer", "as_integer_ratio", "hex", "conjugate", "real", "imag"]

/-- A number with its significand in hexadecimal digits. -/
def hexFloat (x : Float) : Text :=
  if Numeral.isNaN x then "nan"
  else
    let sign : Text := if Number.isNegative x then "-" else []
    if Numeral.isInfinite x then sign ++ "inf"
    else if x == 0 then sign ++ "0x0.0p+0"
    else
      let code := Number.magnitudeCode x
      let exponent : Int := (code / Nat.pow 2 52 : Nat)
      let fraction := code % Nat.pow 2 52
      let (lead, e) : Char × Int := if exponent = 0 then ('0', -1022) else ('1', exponent - 1023)
      sign ++ "0x" ++ lead :: '.' :: hexDigits 13 fraction ++ "p" ++ (if e < 0 then ['-'] else ['+']) ++
        Text.decimal e.natAbs

/-- The quotient of whole numbers that a number is. -/
def ratioOf (x : Float) : Running (Int × Nat) := do
  if Numeral.isNaN x then valueError "cannot convert NaN to integer ratio"
  else if Numeral.isInfinite x then fail "OverflowError" "cannot convert Infinity to integer ratio"
  else
    let (a, b) := Records.quotientOf x
    let d := Nat.gcd a b
    let n : Int := (a / d : Nat)
    return (if Number.isNegative x then -n else n, b / d)

/-- The bytes of a whole number, the first ones last. -/
def bytesOfNat : Nat → Nat → Octets
  | 0, _ => []
  | count + 1, n => Char.ofNat (n % 256) :: bytesOfNat count (n / 256)

/-- A method of a number. -/
def numberMethod (w : Ways) (name : String) (v : Value) (g : Given) : Running Value := do
  let n : Int := match v with
    | .int n => n
    | .bool b => if b then 1 else 0
    | _ => 0
  match v, name with
  | .float x, "is_integer" => return .bool (Numeral.isWhole x)
  | _, "is_integer" => return .bool true
  | .float x, "as_integer_ratio" =>
    let (a, b) ← ratioOf x
    return .tuple [.int a, .int b]
  | _, "as_integer_ratio" => return .tuple [.int n, .int 1]
  | .float x, "hex" => return .text (hexFloat x)
  | _, "bit_length" => return .int (if n = 0 then 0 else n.natAbs.log2 + 1 : Nat)
  | _, "bit_count" => return .int ((Nat.toDigits 2 n.natAbs).count '1' : Nat)
  | _, "to_bytes" =>
    let length ← match g.at? 0 "length" with
      | some v => do pure (← wholeNumber w v).toNat
      | none => pure 1
    let little := match g.at? 1 "byteorder" with
      | some (.text t) => t == "little".toList
      | _ => false
    if n < 0 ∧ !(g.named.lookup "signed" matches some (.bool true)) then
      fail "OverflowError" "can't convert negative int to unsigned"
    else if Nat.pow 256 length ≤ n.natAbs then fail "OverflowError" "int too big to convert"
    else
      let all := bytesOfNat length (n.fmod (Nat.pow 256 length : Nat)).toNat
      return .bytes (if little then all else all.reverse)
  | _, "__add__" => operate w .add "+" v (← g.required name 0 "value")
  | v, _ => return v

/-- A method of a tuple. -/
def tupleMethod (w : Ways) (name : String) (items : List Value) (g : Given) : Running Value := do
  match name with
  | "count" => return .int (← countAmong w (← g.required name 0 "value") items)
  | "index" =>
    match ← indexAmong w (← g.required name 0 "value") 0 items with
    | some i => return .int i
    | none => valueError "tuple.index(x): x not in tuple"
  | "__len__" => return .int items.length
  | _ => return .none

end Equate.Shell.Dynamic
