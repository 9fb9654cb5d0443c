import Equate.Shell.Dynamic.Showing

/-!
# Which values are equal

Numbers are equal whatever their types are. A value that can be a key has a mark by which
tables know it; values that are equal have the same one.
-/
namespace Equate.Shell.Dynamic

/-- How deep values are compared. -/
def compareDepth : Nat := 200

/-- A number, if a value is one. -/
inductive Quantity where
  | int (n : Int)
  | float (x : Float)

/-- The number that a value is. -/
def quantity? (v : Value) : Option Quantity :=
  match v with
  | .int n => some (.int n)
  | .bool b => some (.int (if b then 1 else 0))
  | .float x => some (.float x)
  | _ => none

/-- How two numbers compare. One that is none compares with nothing. -/
def compareNumbers : Quantity → Quantity → Option Ordering
  | .int a, .int b => some (compare a b)
  | .int a, .float y => Numeral.compareInt a y
  | .float x, .int b => (Numeral.compareInt b x).map Ordering.swap
  | .float x, .float y =>
    if x < y then some .lt else if y < x then some .gt else if x == y then some .eq else none

/-- How two texts compare. -/
def compareTexts : Text → Text → Ordering
  | [], [] => .eq
  | [], _ => .lt
  | _, [] => .gt
  | c :: a, d :: b =>
    if c.toNat < d.toNat then .lt else if d.toNat < c.toNat then .gt else compareTexts a b

/-- The mark of a key. -/
def markOf (w : Ways) : Nat → Value → Running Text
  | 0, _ => return []
  | fuel + 1, v => do
    match v with
    | .none => return ['n']
    | .bool b => return if b then ['i', '1'] else ['i', '0']
    | .int n => return 'i' :: integerText n
    | .float x =>
      if Numeral.isWhole x then return 'i' :: integerText (Numeral.toInt x)
      else return 'f' :: Text.decimal x.toBits.toNat
    | .text t => return 't' :: t
    | .bytes t => return 'b' :: t
    | .ellipsis => return ['e']
    | .notImplemented => return ['m']
    | .tuple items =>
      let marks ← items.mapM (markOf w fuel)
      return '(' :: marks.flatMap fun m => Text.decimal m.length ++ ':' :: m
    | .range a b c => return 'r' :: integerText a ++ ',' :: integerText b ++ ',' :: integerText c
    | .module name => return 'M' :: name.toList
    | .type name => return 'T' :: name.toList
    | .builtin name => return 'B' :: name.toList
    | .bound name self => return 'D' :: name.toList ++ (← markOf w fuel self)
    | .method f self => return 'E' :: (← markOf w fuel f) ++ (← markOf w fuel self)
    | .object n =>
      match ← objectAt? n with
      | some (.list _) => unhashable v
      | some (.dict ..) => unhashable v
      | some (.deque ..) => unhashable v
      | some (.set t frozen) =>
        if frozen then
          return 'S' :: (t.marks.mergeSort fun a b => compareTexts a b != .gt).flatMap fun m =>
            Text.decimal m.length ++ ':' :: m
        else unhashable v
      | some (.made type _ core) =>
        match ← classAttribute? type "__hash__" with
        | some .none => unhashable v
        | some f => return 'h' :: (← markOf w fuel (← w.call f [v] []))
        | none =>
          match core with
          | some core => markOf w fuel core
          | none => return 'o' :: Text.decimal n
      | _ => return 'o' :: Text.decimal n
    | v => unhashable v
where
  /-- A value cannot be a key. -/
  unhashable (v : Value) : Running Text := do
    typeError ("unhashable type: '" ++ (← typeName v).toList ++ ['\''])

/-- The mark of a key. -/
def keyOf (w : Ways) (v : Value) : Running Text := markOf w compareDepth v

/-- A value counts as true. -/
def isTrue (w : Ways) (v : Value) : Running Bool := do
  match v with
  | .none => return false
  | .bool b => return b
  | .int n => return n != 0
  | .float x => return x != 0
  | .text t => return !t.isEmpty
  | .bytes t => return !t.isEmpty
  | .tuple items => return !items.isEmpty
  | .range a b c => return if 0 < c then decide (a < b) else decide (b < a)
  | .view _ self =>
    match ← objectOf? self with
    | some (.dict t _ _) => return t.size != 0
    | _ => return true
  | .object n =>
    match ← objectAt? n with
    | some (.list items) => return !items.isEmpty
    | some (.deque items _) => return !items.isEmpty
    | some (.dict t _ _) => return t.size != 0
    | some (.set t _) => return t.size != 0
    | some (.made _ _ core) =>
      match ← ask? w v "__bool__" [] with
      | some (.bool b) => return b
      | some _ => return true
      | none =>
        match ← ask? w v "__len__" [] with
        | some (.int n) => return n != 0
        | _ =>
          match core with
          | some (.text t) => return !t.isEmpty
          | some (.int n) => return n != 0
          | some (.float x) => return x != 0
          | some (.tuple items) => return !items.isEmpty
          | some (.object n) =>
            match ← objectAt? n with
            | some (.list items) => return !items.isEmpty
            | some (.dict t _ _) => return t.size != 0
            | _ => return true
          | _ => return true
    | _ => return true
  | _ => return true

/-- Two values are equal. -/
def equals (w : Ways) : Nat → Value → Value → Running Bool
  | 0, _, _ => fail "RecursionError" "maximum recursion depth exceeded in comparison"
  | fuel + 1, a, b => do
    let same (x y : List Value) : Running Bool := do
      if x.length != y.length then return false
      else (x.zip y).allM fun (u, v) => do if isSame u v then return true else equals w fuel u v
    match quantity? a, quantity? b with
    | some x, some y => return compareNumbers x y == some .eq
    | _, _ =>
      match a, b with
      | .text x, .text y => return x == y
      | .bytes x, .bytes y => return x == y
      | .tuple x, .tuple y => same x y
      | .range a b c, .range d e f => return a == d && b == e && c == f
      | .method f u, .method g v => return isSame f g && isSame u v
      | .bound f u, .bound g v => return f == g && isSame u v
      | .slice a b c, .slice d e f => same [a, b, c] [d, e, f]
      | .view k x, .view l y =>
        if k == l then
          match ← objectOf? x, ← objectOf? y with
          | some (.dict t _ _), some (.dict u _ _) =>
            if k == "keys" then return t.size == u.size && t.marks.all u.has else same t.values u.values
          | _, _ => return false
        else return false
      | _, _ =>
        match ← objectOf? a, ← objectOf? b with
        | some (.list x), some (.list y) => same x.toList y.toList
        | some (.deque x _), some (.deque y _) => same x.toList y.toList
        | some (.dict t _ _), some (.dict u _ _) =>
          if t.size != u.size then return false
          else t.marks.allM fun k =>
            match t.value? k, u.value? k with
            | some x, some y => do if isSame x y then return true else equals w fuel x y
            | _, _ => return false
        | some (.set t _), some (.set u _) => return t.size == u.size && t.marks.all u.has
        | x, y => made fuel a b x y
where
  /-- Two values of which one may be an instance of a class. -/
  made (fuel : Nat) (a b : Value) (x y : Option Object) : Running Bool := do
    let asked ← match x with
      | some (.made ..) => ask? w a "__eq__" [b]
      | _ => pure none
    match asked with
    | some (.bool r) => return r
    | some .notImplemented => return isSame a b
    | some v => isTrue w v
    | none =>
      let asked ← match y with
        | some (.made ..) => ask? w b "__eq__" [a]
        | _ => pure none
      match asked with
      | some (.bool r) => return r
      | some .notImplemented => return isSame a b
      | some v => isTrue w v
      | none =>
        let isEnum (v : Value) : Running Bool := do
          return (← isOfType v "Enum") && !(← isOfType v "int") && !(← isOfType v "str")
        if isSame a b then return true
        else
          match x, y with
          | some (.made _ _ (some _)), some (.made _ _ (some _)) => cores fuel a b isEnum
          | some (.made _ _ (some _)), _ => cores fuel a b isEnum
          | _, some (.made _ _ (some _)) => cores fuel a b isEnum
          | _, _ => return false
  /-- Two values by what they have of their own. -/
  cores (fuel : Nat) (a b : Value) (isEnum : Value → Running Bool) : Running Bool := do
    if (← isEnum a) || (← isEnum b) then return false
    else equals w fuel (← coreOf a) (← coreOf b)

/-- Two values are equal. -/
def areEqual (w : Ways) (a b : Value) : Running Bool := do
  if isSame a b && !(a matches .float _) && !(a matches .object _) then return true
  else equals w compareDepth a b

/-- Two values are the same one or equal. -/
def sameOrEqual (w : Ways) (a b : Value) : Running Bool := do
  if isSame a b then return true else equals w compareDepth a b

/-- The sign of a comparison. -/
def Comparison.sign : Comparison → String
  | .equal => "=="
  | .different => "!="
  | .less => "<"
  | .lessOrEqual => "<="
  | .greater => ">"
  | .greaterOrEqual => ">="
  | .isSame => "is"
  | .isNotSame => "is not"
  | .within => "in"
  | .notWithin => "not in"

/-- The method of a comparison. -/
def Comparison.method : Comparison → String
  | .less => "__lt__"
  | .lessOrEqual => "__le__"
  | .greater => "__gt__"
  | .greaterOrEqual => "__ge__"
  | .different => "__ne__"
  | _ => "__eq__"

/-- The comparison with its sides exchanged. -/
def Comparison.swap : Comparison → Comparison
  | .less => .greater
  | .lessOrEqual => .greaterOrEqual
  | .greater => .less
  | .greaterOrEqual => .lessOrEqual
  | c => c

/-- A comparison holds in an order. -/
def Comparison.holds (c : Comparison) (o : Ordering) : Bool :=
  match c with
  | .less => o == .lt
  | .lessOrEqual => o != .gt
  | .greater => o == .gt
  | .greaterOrEqual => o != .lt
  | .equal => o == .eq
  | _ => o != .eq

/-- Two values in an order: whether a comparison holds. -/
def isOrdered (w : Ways) (c : Comparison) : Nat → Value → Value → Running Bool
  | 0, _, _ => fail "RecursionError" "maximum recursion depth exceeded in comparison"
  | fuel + 1, a, b => do
    let refused : Running Bool := do
      typeError ('\'' :: c.sign.toList ++ "' not supported between instances of '" ++
        (← typeName a).toList ++ "' and '" ++ (← typeName b).toList ++ ['\''])
    let rec items : List Value → List Value → Running Bool
      | [], [] => return c.holds .eq
      | [], _ => return c.holds .lt
      | _, [] => return c.holds .gt
      | u :: x, v :: y => do
        if isSame u v then items x y
        else if ← equals w fuel u v then items x y
        else isOrdered w c fuel u v
    match quantity? a, quantity? b with
    | some x, some y => return (compareNumbers x y).any c.holds
    | _, _ =>
      match a, b with
      | .text x, .text y => return c.holds (compareTexts x y)
      | .bytes x, .bytes y => return c.holds (compareTexts x y)
      | .tuple x, .tuple y => items x y
      | _, _ =>
        match ← objectOf? a, ← objectOf? b with
        | some (.list x), some (.list y) => items x.toList y.toList
        | some (.deque x _), some (.deque y _) => items x.toList y.toList
        | some (.set t _), some (.set u _) =>
          let below := t.marks.all u.has
          let above := u.marks.all t.has
          return match c with
            | .less => below && t.size < u.size
            | .lessOrEqual => below
            | .greater => above && u.size < t.size
            | _ => above
        | x, y =>
          let asked ← match x with
            | some (.made ..) => ask? w a c.method [b]
            | _ => pure none
          match asked.filter fun v => !(v matches .notImplemented) with
          | some v => isTrue w v
          | none =>
            let asked ← match y with
              | some (.made ..) => ask? w b c.swap.method [a]
              | _ => pure none
            match asked.filter fun v => !(v matches .notImplemented) with
            | some v => isTrue w v
            | none =>
              match x, y with
              | some (.made _ _ (some u)), some (.made _ _ (some v)) => isOrdered w c fuel u v
              | some (.made _ _ (some u)), _ => isOrdered w c fuel u b
              | _, some (.made _ _ (some v)) => isOrdered w c fuel a v
              | _, _ => refused

/-- One value is less than another. -/
def isLess (w : Ways) (a b : Value) : Running Bool := isOrdered w .less compareDepth a b

/-! ## Sorting -/

/-- Two lists in order become one. -/
def mergeInOrder (less : Value × Value → Value × Value → Running Bool) :
    Nat → List (Value × Value) → List (Value × Value) → List (Value × Value) →
      Running (List (Value × Value))
  | 0, a, b, done => return done.reverse ++ a ++ b
  | _ + 1, [], b, done => return done.reverse ++ b
  | _ + 1, a, [], done => return done.reverse ++ a
  | n + 1, x :: a, y :: b, done => do
    if ← less y x then mergeInOrder less n (x :: a) b (y :: done)
    else mergeInOrder less n a (y :: b) (x :: done)

/-- Neighbours become one. -/
def mergeNeighbours (less : Value × Value → Value × Value → Running Bool) :
    List (List (Value × Value)) → Running (List (List (Value × Value)))
  | a :: b :: rest => do
    let first ← mergeInOrder less (a.length + b.length + 1) a b []
    return first :: (← mergeNeighbours less rest)
  | all => return all

/-- All parts become one. -/
def mergeAll (less : Value × Value → Value × Value → Running Bool) :
    Nat → List (List (Value × Value)) → Running (List (Value × Value))
  | 0, parts => return parts.flatten
  | _ + 1, [] => return []
  | _ + 1, [all] => return all
  | n + 1, parts => do mergeAll less n (← mergeNeighbours less parts)

/-- Values in the order of their keys; of equal ones the first stays first. A key may also be a
function that compares. -/
def sorted (w : Ways) (items : List Value) (key : Option Value) (reversed : Bool) : Running (List Value) := do
  let comparing : Option Value ← match key with
    | some f =>
      match ← objectOf? f with
      | some (.prepared (.builtin "functools._compared") [g] _) => pure (some g)
      | _ => pure none
    | none => pure none
  let pairs ← items.mapM fun v => do
    match key, comparing with
    | some f, none => return (← w.call f [v] [], v)
    | _, _ => return (v, v)
  let pairs := if reversed then pairs.reverse else pairs
  let less (x y : Value × Value) : Running Bool := do
    match comparing with
    | some g =>
      match quantity? (← w.call g [x.1, y.1] []) with
      | some q => return compareNumbers q (.int 0) == some .lt
      | none => return false
    | none => isLess w x.1 y.1
  let all ← mergeAll less 64 (pairs.map fun p => [p])
  let all := all.map Prod.snd
  return if reversed then all.reverse else all

end Equate.Shell.Dynamic
