import Equate.Shell.Dynamic.Collection
import Equate.Shell.Dynamic.Surroundings
import Equate.Shell.Utility.Digest

/-!
# Tools of scripts

Iterators that are put together, tables of counts, records with names, digests and what else
scripts bring along.
-/
namespace Equate.Shell.Dynamic

/-! ## Iterators -/

/-- The functions that make iterators. -/
def iteratorFunctions : List String :=
  ["count", "cycle", "repeat", "chain", "islice", "takewhile", "dropwhile", "accumulate", "product", "permutations",
    "combinations", "combinations_with_replacement", "groupby", "zip_longest", "starmap", "tee", "pairwise",
    "compress", "filterfalse", "batched"]

/-- All ways to take one of each. -/
def products {α : Type} : List (List α) → List (List α)
  | [] => [[]]
  | xs :: rest => xs.flatMap fun x => (products rest).map (x :: ·)

/-- All ways to take so many in their order. -/
def combinations {α : Type} : Nat → List α → List (List α)
  | 0, _ => [[]]
  | _ + 1, [] => []
  | n + 1, x :: rest => (combinations n rest).map (x :: ·) ++ combinations (n + 1) rest

/-- All ways to take so many in their order, the same ones again too. -/
def repeatedCombinations {α : Type} : Nat → List α → List (List α)
  | 0, _ => [[]]
  | _ + 1, [] => []
  | n + 1, x :: rest => (repeatedCombinations n (x :: rest)).map (x :: ·) ++ repeatedCombinations (n + 1) rest

/-- All ways to take so many in any order. -/
def permutations {α : Type} : Nat → List α → List (List α)
  | 0, _ => [[]]
  | n + 1, xs => (List.range xs.length).flatMap fun i =>
      match xs[i]? with
      | some x => (permutations n (xs.eraseIdx i)).map (x :: ·)
      | none => []

/-- Neighbours with the same key. -/
def grouped (w : Ways) : Nat → List (Value × Value) → Running (List (Value × List Value))
  | 0, _ => return []
  | _, [] => return []
  | n + 1, (k, v) :: rest => do
    let rec take : List (Value × Value) → Running (List Value × List (Value × Value))
      | [] => return ([], [])
      | (l, u) :: more => do
        if ← sameOrEqual w k l then
          let (vs, left) ← take more
          return (u :: vs, left)
        else return ([], (l, u) :: more)
    let (vs, left) ← take rest
    return (k, v :: vs) :: (← grouped w n left)

/-- A function that makes an iterator. -/
def iteratorCall (w : Ways) (name : String) (g : Given) : Running Value := do
  let v := (g.plain[0]?).getD .none
  let whole? (v : Option Value) : Running (Option Int) := do
    match v with
    | some v => if v matches .none then return none else return some (← wholeNumber w v)
    | none => return none
  let fixed (all : List (List Value)) : Running Value := makeIterator (.values (all.map Value.tuple))
  match name with
  | "count" => makeIterator (.count ((g.at? 0 "start").getD (.int 0)) ((g.at? 1 "step").getD (.int 1)))
  | "cycle" =>
    let items ← itemsOf w v
    makeIterator (.cycle items items)
  | "repeat" =>
    match ← whole? (g.at? 1 "times") with
    | some n => makeIterator (.values (List.replicate n.toNat v))
    | none => makeIterator (.again v)
  | "chain" => makeIterator (.chain none (← makeIterator (.values g.plain)))
  | "chain.from_iterable" => makeIterator (.chain none (← iterator w v))
  | "islice" =>
    let numbers ← (g.plain.drop 1).mapM fun v => whole? (some v)
    let (first, last, step) : Option Int × Option Int × Option Int := match numbers with
      | [n] => (none, n, none)
      | [a, b] => (a, b, none)
      | a :: b :: c :: _ => (a, b, c)
      | [] => (none, none, none)
    let first := (first.getD 0).toNat
    makeIterator (.part (← iterator w v) first (last.map fun n => n.toNat - first) (step.getD 1).toNat)
  | "takewhile" => makeIterator (.takeWhile v (← iterator w ((g.plain[1]?).getD .none)))
  | "dropwhile" => makeIterator (.dropWhile v (← iterator w ((g.plain[1]?).getD .none)))
  | "filterfalse" => makeIterator (.filter v (← iterator w ((g.plain[1]?).getD .none)) false)
  | "accumulate" =>
    let f := (g.some? 1 "func")
    let items ← itemsOf w v
    let items := match g.some? 2 "initial" with
      | some x => x :: items
      | none => items
    match items with
    | [] => makeIterator (.values [])
    | first :: rest =>
      let (_, found) ← rest.foldlM (fun (sum, found) x => do
        let next ← match f with
          | some f => w.call f [sum, x] []
          | none => operate w .add "+" sum x
        return (next, next :: found)) (first, [first])
      makeIterator (.values found.reverse)
  | "product" =>
    let all ← g.plain.mapM (itemsOf w)
    let times := ((← whole? (g.named.lookup "repeat")).getD 1).toNat
    fixed (products (List.replicate times all).flatten)
  | "permutations" =>
    let items ← itemsOf w v
    fixed (permutations (((← whole? (g.at? 1 "r")).map Int.toNat).getD items.length) items)
  | "combinations" => fixed (combinations ((← whole? (g.at? 1 "r")).getD 0).toNat (← itemsOf w v))
  | "combinations_with_replacement" =>
    fixed (repeatedCombinations ((← whole? (g.at? 1 "r")).getD 0).toNat (← itemsOf w v))
  | "groupby" =>
    let keyed ← (← itemsOf w v).mapM fun x => do
      match g.some? 1 "key" with
      | some f => return (← w.call f [x] [], x)
      | none => return (x, x)
    let groups ← grouped w keyed.length keyed
    let made ← groups.mapM fun (k, vs) => do return Value.tuple [k, ← makeIterator (.values vs)]
    makeIterator (.values made)
  | "zip_longest" =>
    let all ← g.plain.mapM (itemsOf w)
    let fill := (g.named.lookup "fillvalue").getD .none
    let size := (all.map List.length).foldl max 0
    fixed ((List.range size).map fun i => all.map fun items => (items[i]?).getD fill)
  | "starmap" =>
    let made ← (← itemsOf w ((g.plain[1]?).getD .none)).mapM fun x => do w.call v (← itemsOf w x) []
    makeIterator (.values made)
  | "tee" =>
    let items ← itemsOf w v
    let n := ((← whole? (g.at? 1 "n")).getD 2).toNat
    return .tuple (← (List.range n).mapM fun _ => makeIterator (.values items))
  | "pairwise" =>
    let items ← itemsOf w v
    fixed ((items.zip items.tail).map fun (a, b) => [a, b])
  | "compress" =>
    let marks ← (← itemsOf w ((g.plain[1]?).getD .none)).mapM (isTrue w)
    makeIterator (.values (((← itemsOf w v).zip marks).filterMap fun (x, b) => if b then some x else none))
  | "batched" =>
    let n := ((← whole? (g.at? 1 "n")).getD 1).toNat
    let items ← itemsOf w v
    fixed (chunks n (items.length + 1) items)
  | _ => return .none

/-! ## Tables and queues -/

/-- A class for records with names. -/
def recordClass (name : String) (names : List Text) (defaults : List Value) : Running Value := do
  let n := (← get).store.size
  make (.kind ⟨name, [.type "tuple"], [.object n, .type "tuple", .type "object"],
    [("_fields", .tuple (names.map Value.text)), (".defaults", .tuple defaults)]⟩)

/-- The functions for tables and queues. -/
def collectionCall (w : Ways) (name : String) (g : Given) : Running Value := do
  match name with
  | "defaultdict" =>
    let entries ← entriesOf w { g with plain := g.plain.drop 1 }
    make (.dict (entries.foldl (fun (t : Table) (m, k, v) => t.put m k v) .empty) "defaultdict"
      ((g.plain[0]?).getD .none))
  | "OrderedDict" =>
    let entries ← entriesOf w g
    make (.dict (entries.foldl (fun (t : Table) (m, k, v) => t.put m k v) .empty) "OrderedDict" .none)
  | "Counter" => make (.dict (← addCounts w .empty g 1) "Counter" .none)
  | "deque" =>
    let items ← match g.some? 0 "iterable" with
      | some v => itemsOf w v
      | none => pure []
    let most ← match g.some? 1 "maxlen" with
      | some v => do pure (some (← wholeNumber w v).toNat)
      | none => pure none
    let kept := match most with
      | some n => items.drop (items.length - n)
      | none => items
    make (.deque kept.toArray most)
  | "namedtuple" =>
    let names ← match (g.plain[1]?).getD .none with
      | .text t => pure (splitGaps (t.length + 1) none (t.map fun c => if c = ',' then ' ' else c))
      | v => do (← itemsOf w v).mapM (strOf w)
    let defaults ← match g.named.lookup "defaults" with
      | some v => itemsOf w v
      | none => pure []
    match (g.plain[0]?).getD .none with
    | .text t => recordClass (String.ofList t) names defaults
    | _ => typeError "namedtuple() requires a name"
  | "ChainMap" =>
    let tables ← g.plain.mapM fun v => entriesOf w ⟨[v], []⟩
    makeDict ((tables.reverse.flatten).foldl (fun (t : Table) (m, k, v) => t.put m k v) .empty)
  | _ => return .none

/-! ## Functions -/

/-- The functions on functions. -/
def functionFunctions : List String :=
  ["reduce", "partial", "lru_cache", "cache", "wraps", "cmp_to_key", "total_ordering", "cached_property",
    "update_wrapper"]

/-- A function on functions. -/
def functionCall (w : Ways) (name : String) (g : Given) : Running Value := do
  let v := (g.plain[0]?).getD .none
  let cached (f size : Value) : Running Value := do
    make (.made (.type "functools._lru_cache_wrapper") [("__wrapped__", f), (".cache", ← makeDict .empty),
      (".hits", .int 0), (".misses", .int 0), ("maxsize", size)] none)
  match name with
  | "reduce" =>
    let items ← itemsOf w ((g.plain[1]?).getD .none)
    match g.plain[2]?, items with
    | some start, items => items.foldlM (fun a b => w.call v [a, b] []) start
    | none, first :: rest => rest.foldlM (fun a b => w.call v [a, b] []) first
    | none, [] => typeError "reduce() of empty iterable with no initial value"
  | "partial" => make (.prepared v g.plain.tail g.named)
  | "lru_cache" =>
    match v with
    | .object _ => cached v (.int 128)
    | _ => make (.prepared (.builtin "functools._cached") [(g.at? 0 "maxsize").getD (.int 128)] [])
  | "_cached" => cached ((g.plain[1]?).getD .none) v
  | "cache" => cached v .none
  | "wraps" => make (.prepared (.builtin "functools._wrapped") [v] [])
  | "_wrapped" =>
    match (g.plain[1]?).getD .none with
    | .object n =>
      for name in ["__name__", "__qualname__", "__doc__"] do
        match ← attempt (w.member v name) with
        | .ok x => modify fun s => { s with settings := setField ("@" ++ toString n ++ "." ++ name) x s.settings }
        | .error _ => pure ()
      modify fun s => { s with settings := setField ("@" ++ toString n ++ ".__wrapped__") v s.settings }
      return .object n
    | f => return f
  | "update_wrapper" => return v
  | "cmp_to_key" => make (.prepared (.builtin "functools._compared") [v] [])
  | "_compared" => return (g.plain[1]?).getD .none
  | "cached_property" => make (.wrapped "cached_property" v)
  | "total_ordering" =>
    match v, ← objectOf? v with
    | .object n, some (.kind k) =>
      let has (m : String) : Bool := (k.fields.lookup m).isSome
      let root := ["__lt__", "__gt__", "__le__", "__ge__"].find? has
      let missing := ["__lt__", "__gt__", "__le__", "__ge__"].filter fun m => !has m
      match root with
      | some r =>
        let fields := missing.foldl (fun fs m => setField m (.builtin ("functools._ordered." ++ r ++ "." ++ m)) fs) k.fields
        setObject n (.kind { k with fields })
        return v
      | none => valueError "must define at least one ordering operation: < > <= >="
    | _, _ => return v
  | name =>
    match name.splitOn "." with
    | ["_ordered", root, wanted] =>
      let a := v
      let b := (g.plain[1]?).getD .none
      let holds ← match ← ask? w a root [b] with
        | some r => isTrue w r
        | none => pure false
      let equal ← areEqual w a b
      let (less, greater) : Bool × Bool := match root with
        | "__lt__" => (holds, !holds && !equal)
        | "__gt__" => (!holds && !equal, holds)
        | "__le__" => (holds && !equal, !holds)
        | _ => (!holds, holds && !equal)
      return .bool (match wanted with
        | "__lt__" => less
        | "__gt__" => greater
        | "__le__" => less || equal
        | _ => greater || equal)
    | _ => return .none

/-- The operators as functions. -/
def operatorFunctions : List (String × Operator) :=
  [("add", .add), ("sub", .subtract), ("mul", .multiply), ("truediv", .divide), ("floordiv", .floorDivide),
    ("mod", .modulo), ("pow", .power), ("lshift", .shiftLeft), ("rshift", .shiftRight), ("and_", .bitAnd),
    ("or_", .bitOr), ("xor", .bitXor), ("matmul", .matrix), ("concat", .add)]

/-- The comparisons as functions. -/
def comparisonFunctions : List (String × Comparison) :=
  [("lt", .less), ("le", .lessOrEqual), ("gt", .greater), ("ge", .greaterOrEqual), ("eq", .equal), ("ne", .different),
    ("is_", .isSame), ("is_not", .isNotSame)]

/-- A function that stands for an operator. -/
def operatorCall (w : Ways) (name : String) (g : Given) : Running Value := do
  let a := (g.plain[0]?).getD .none
  let b := (g.plain[1]?).getD .none
  match operatorFunctions.lookup name, comparisonFunctions.lookup name with
  | some operator, _ => operate w operator operator.sign a b
  | none, some c => compared w c a b
  | none, none =>
    match name with
    | "neg" => negative w a
    | "pos" => positive w a
    | "abs" => absolute w a
    | "invert" => inverted w a
    | "not_" => return .bool (!(← isTrue w a))
    | "truth" => return .bool (← isTrue w a)
    | "contains" => return .bool (← isWithin w b a)
    | "getitem" => itemAt w a b
    | "setitem" => setItem w a b ((g.plain[2]?).getD .none); return .none
    | "delitem" => deleteItem w a b; return .none
    | "index" => return .int (← wholeNumber w a)
    | "itemgetter" => make (.prepared (.builtin "operator._items") g.plain [])
    | "attrgetter" => make (.prepared (.builtin "operator._members") g.plain [])
    | "methodcaller" => make (.prepared (.builtin "operator._method") [.tuple g.plain] g.named)
    | "_items" =>
      let target := (g.plain.getLast?).getD .none
      match g.plain.dropLast with
      | [k] => itemAt w target k
      | ks => return .tuple (← ks.mapM (itemAt w target))
    | "_members" =>
      let target := (g.plain.getLast?).getD .none
      let one (k : Value) : Running Value := do
        match k with
        | .text t => (Text.splitOn '.' t).foldlM (fun v n => w.member v (String.ofList n)) target
        | _ => typeError "attribute name must be a string"
      match g.plain.dropLast with
      | [k] => one k
      | ks => return .tuple (← ks.mapM one)
    | "_method" =>
      match a with
      | .tuple (.text m :: arguments) => w.call (← w.member b (String.ofList m)) arguments g.named
      | _ => return .none
    | _ => return .none

/-- The names of the module for operators. -/
def operatorNames : List String :=
  operatorFunctions.map Prod.fst ++ comparisonFunctions.map Prod.fst ++
    ["neg", "pos", "abs", "invert", "not_", "truth", "contains", "getitem", "setitem", "delitem", "index", "itemgetter",
      "attrgetter", "methodcaller"]

/-! ## Copies -/

/-- A copy of a value with copies of all that is in it; what has been copied already is taken
again. -/
def deepCopy (w : Ways) : Nat → Value → List (Nat × Value) → Running (Value × List (Nat × Value))
  | 0, v, seen => return (v, seen)
  | fuel + 1, v, seen => do
    let all (vs : List Value) (seen : List (Nat × Value)) : Running (List Value × List (Nat × Value)) := do
      let (done, seen) ← vs.foldlM (fun (done, seen) v => do
        let (c, seen) ← deepCopy w fuel v seen
        return (c :: done, seen)) (([] : List Value), seen)
      return (done.reverse, seen)
    match v with
    | .tuple items =>
      let (items, seen) ← all items seen
      return (.tuple items, seen)
    | .object n =>
      match seen.lookup n with
      | some c => return (c, seen)
      | none =>
        match ← objectAt? n with
        | some (.list items) =>
          let c ← makeList []
          let (items, seen) ← all items.toList ((n, c) :: seen)
          fill c (.list items.toArray)
          return (c, seen)
        | some (.deque items most) =>
          let c ← makeList []
          let (items, seen) ← all items.toList ((n, c) :: seen)
          fill c (.deque items.toArray most)
          return (c, seen)
        | some (.dict t kind f) =>
          let c ← makeDict .empty
          let (values, seen) ← all t.values ((n, c) :: seen)
          let copy := (t.marks.zip (t.keys.zip values)).foldl (fun (r : Table) (m, k, v) => r.put m k v) .empty
          fill c (.dict copy kind f)
          return (c, seen)
        | some (.set t frozen) =>
          let c ← make (.set t frozen)
          return (c, (n, c) :: seen)
        | some (.made type fields core) =>
          match ← ask? w v "__deepcopy__" [← makeDict .empty] with
          | some c => return (c, (n, c) :: seen)
          | none =>
            if ← isBelow type (.type "Enum") then return (v, seen)
            else
              let c ← make (.made type fields core)
              let (values, seen) ← all (fields.map Prod.snd) ((n, c) :: seen)
              let (core, seen) ← match core with
                | some x => do
                  let (x, seen) ← deepCopy w fuel x seen
                  pure (some x, seen)
                | none => pure (none, seen)
              fill c (.made type ((fields.map Prod.fst).zip values) core)
              return (c, seen)
        | _ => return (v, seen)
    | v => return (v, seen)
where
  /-- An object gets its content. -/
  fill (v : Value) (x : Object) : Running Unit := do
    match v with
    | .object n => setObject n x
    | _ => return

/-- A copy of a value. -/
def shallowCopy (w : Ways) (v : Value) : Running Value := do
  match ← objectOf? v with
  | some (.list items) => make (.list items)
  | some (.deque items most) => make (.deque items most)
  | some (.dict t kind f) => make (.dict t kind f)
  | some (.set t frozen) => make (.set t frozen)
  | some (.made type fields core) =>
    match ← ask? w v "__copy__" [] with
    | some c => return c
    | none => if ← isBelow type (.type "Enum") then return v else make (.made type fields core)
  | _ => return v

/-! ## Averages -/

/-- The functions of statistics. -/
def statisticsFunctions : List String :=
  ["mean", "fmean", "median", "median_low", "median_high", "mode", "stdev", "variance", "pstdev", "pvariance"]

/-- A value as a quotient of whole numbers. -/
def quotientOfValue (w : Ways) (v : Value) : Running (Int × Nat) := do
  match ← coreOf v with
  | .int n => return (n, 1)
  | .bool b => return (if b then 1 else 0, 1)
  | v => return exactQuotient (← toFloat w v)

/-- A function of statistics. -/
def statisticsCall (w : Ways) (name : String) (g : Given) : Running Value := do
  let items ← itemsOf w ((g.plain[0]?).getD .none)
  let n := items.length
  let refused {α : Type} (words : Text) : Running α := fail "statistics.StatisticsError" words
  let wholes := items.all fun v => match v with
    | .int _ => true
    | .bool _ => true
    | _ => false
  let result (q : Int × Nat) : Value :=
    if wholes && q.1 % q.2 == 0 then .int (q.1 / q.2) else .float (nearestTo q)
  let deviation (least divisor : Nat) : Running (Int × Nat) := do
    if n < least then refused (if least = 2 then name.toList ++ " requires at least two data points"
      else name.toList ++ " requires at least one data point")
    let qs ← items.mapM (quotientOfValue w)
    let sum := qs.foldl addQuotients (0, 1)
    let mean : Int × Nat := (sum.1, sum.2 * n)
    let total := (qs.map fun q =>
      let d := addQuotients q (-mean.1, mean.2)
      (d.1 * d.1, d.2 * d.2)).foldl addQuotients (0, 1)
    let d := Nat.gcd total.1.natAbs (total.2 * divisor)
    return (total.1 / d, total.2 * divisor / d)
  match name with
  | "mean" =>
    if n = 0 then refused "mean requires at least one data point"
    let sum := (← items.mapM (quotientOfValue w)).foldl addQuotients (0, 1)
    return result (sum.1, sum.2 * n)
  | "fmean" =>
    if n = 0 then refused "fmean requires at least one data point"
    let sum := (← items.mapM (quotientOfValue w)).foldl addQuotients (0, 1)
    return .float (nearestTo sum / Float.ofNat n)
  | "mode" =>
    if n = 0 then refused "no mode for empty data"
    let t ← addCounts w .empty ⟨[← makeList items], []⟩ 1
    let number (v : Value) : Int := match v with
      | .int n => n
      | _ => 0
    return (((t.toList.mergeSort fun a b => number b.2 ≤ number a.2).head?).map Prod.fst).getD .none
  | "variance" => return result (← deviation 2 (n - 1))
  | "pvariance" => return result (← deviation 1 n)
  | "stdev" =>
    let (a, b) ← deviation 2 (n - 1)
    return .float (nearestRoot a.natAbs b)
  | "pstdev" =>
    let (a, b) ← deviation 1 n
    return .float (nearestRoot a.natAbs b)
  | name =>
    if n = 0 then refused "no median for empty data"
    let all := (← sorted w items none false).toArray
    let at_ (i : Nat) : Value := (all[i]?).getD .none
    if n % 2 = 1 ∨ name = "median_high" then return at_ (n / 2)
    else if name = "median_low" then return at_ (n / 2 - 1)
    else operate w .divide "/" (← operate w .add "+" (at_ (n / 2 - 1)) (at_ (n / 2))) (.int 2)

/-! ## Heaps and ordered lists -/

/-- The first position behind the values that are less, or behind those that are not greater. -/
def bisect (w : Ways) (items : Array Value) (v : Value) (right : Bool) : Nat → (low high : Nat) → Running Nat
  | 0, low, _ => return low
  | fuel + 1, low, high => do
    if low < high then
      let middle := (low + high) / 2
      let u := (items[middle]?).getD .none
      let goesRight ← if right then do pure (!(← isLess w v u)) else isLess w u v
      if goesRight then bisect w items v right fuel (middle + 1) high else bisect w items v right fuel low middle
    else return low

/-- The functions for heaps and ordered lists. -/
def orderFunctions : List String :=
  ["bisect", "bisect_left", "bisect_right", "insort", "insort_left", "insort_right", "heappush", "heappop", "heapify",
    "heapreplace", "heappushpop", "nlargest", "nsmallest"]

/-- A value goes up in a heap as long as it is less than what is above it, to a place at most. -/
def rise (w : Ways) (top : Nat) (v : Value) : Nat → (place : Nat) → Array Value → Running (Array Value)
  | 0, place, heap => return heap.setIfInBounds place v
  | fuel + 1, place, heap => do
    if top < place then
      let above := (place - 1) / 2
      let u := (heap[above]?).getD .none
      if ← isLess w v u then rise w top v fuel above (heap.setIfInBounds place u)
      else return heap.setIfInBounds place v
    else return heap.setIfInBounds place v

/-- The lesser ones below a place go up by one, and a value gets the place that is left. -/
def sink (w : Ways) (top : Nat) (v : Value) : Nat → (place : Nat) → Array Value → Running (Array Value)
  | 0, place, heap => return heap.setIfInBounds place v
  | fuel + 1, place, heap => do
    let left := 2 * place + 1
    match heap[left]?, heap[left + 1]? with
    | none, _ => rise w top v 64 place heap
    | some a, none => sink w top v fuel left (heap.setIfInBounds place a)
    | some a, some b =>
      if ← isLess w a b then sink w top v fuel left (heap.setIfInBounds place a)
      else sink w top v fuel (left + 1) (heap.setIfInBounds place b)

/-- A value takes a place in a heap, and goes down from there. -/
def settle (w : Ways) (place : Nat) (v : Value) (heap : Array Value) : Running (Array Value) :=
  sink w place v 64 place heap

/-- A heap of values in any order, by the places that have something below them. -/
def heapOf (w : Ways) : Nat → Array Value → Running (Array Value)
  | 0, heap => return heap
  | n + 1, heap => do heapOf w n (← settle w n ((heap[n]?).getD .none) heap)

/-- A function for heaps and ordered lists. -/
def orderCall (w : Ways) (name : String) (g : Given) : Running Value := do
  let first := (g.plain[0]?).getD .none
  let v := (g.plain[1]?).getD .none
  let key := (g.named.lookup "key").filter fun v => !(v matches .none)
  if name = "nlargest" ∨ name = "nsmallest" then
    let all ← sorted w (← itemsOf w v) key (name = "nlargest")
    makeList (all.take (← wholeNumber w first).toNat)
  else
    match first, ← objectOf? first with
    | .object n, some (.list items) =>
      let keep (all : Array Value) : Running Unit := setObject n (.list all)
      let insert (right : Bool) : Running Value := do
        let i ← bisect w items v right 64 0 items.size
        keep (items.toList.take i ++ v :: items.toList.drop i).toArray
        return .none
      match name with
      | "bisect_left" => return .int (← bisect w items v false 64 0 items.size)
      | "bisect" => return .int (← bisect w items v true 64 0 items.size)
      | "bisect_right" => return .int (← bisect w items v true 64 0 items.size)
      | "insort_left" => insert false
      | "heapify" =>
        keep (← heapOf w (items.size / 2) items)
        return .none
      | "heappush" =>
        keep (← rise w 0 v 64 items.size (items.push v))
        return .none
      | "heappop" =>
        match items[0]?, items.back? with
        | some least, some last =>
          let others := items.pop
          keep (← if others.isEmpty then pure others else settle w 0 last others)
          return least
        | _, _ => fail "IndexError" "index out of range"
      | "heapreplace" =>
        match items[0]? with
        | some least =>
          keep (← settle w 0 v items)
          return least
        | none => fail "IndexError" "index out of range"
      | "heappushpop" =>
        match items[0]? with
        | some least =>
          if ← isLess w least v then
            keep (← settle w 0 v items)
            return least
          else return v
        | none => return v
      | _ => insert true
    | _, _ => typeError "heap argument must be a list"

/-! ## Digests and digits -/

/-- The methods of digests. -/
def digestMethods : List String := ["update", "hexdigest", "digest", "copy"]

/-- The bytes of hexadecimal digits. -/
def bytesOfHex : Octets → Octets
  | a :: b :: rest =>
    Char.ofNat ((Json.hexValue? a).getD 0 * 16 + (Json.hexValue? b).getD 0) :: bytesOfHex rest
  | _ => []

/-- A method of a digest. -/
def digestMethod (n : Nat) (name : String) (fields : List (String × Value)) (g : Given) : Running Value := do
  let kind : String := match fields.lookup "name" with
    | some (.text t) => String.ofList t
    | _ => "md5"
  let data : Octets := match fields.lookup ".data" with
    | some (.bytes t) => t
    | _ => []
  match name with
  | "update" =>
    match (g.plain[0]?).getD .none with
    | .bytes t =>
      setObject n (.made (.type "_hashlib.HASH") (setField ".data" (.bytes (data ++ t)) fields) none)
      return .none
    | _ => typeError "Strings must be encoded before hashing"
  | "hexdigest" => return .text (Utility.digestOf (kind ++ "sum") data)
  | "digest" => return .bytes (bytesOfHex (Utility.digestOf (kind ++ "sum") data))
  | _ => make (.made (.type "_hashlib.HASH") fields none)

/-- The kinds of digests. -/
def digestNames : List String := ["md5", "sha1", "sha224", "sha256", "sha384", "sha512"]

/-- A digest. -/
def digestCall (name : String) (g : Given) : Running Value := do
  let (kind, data) : String × Value := match name, g.plain with
    | "new", .text t :: rest => (String.ofList t, (rest[0]?).getD (.bytes []))
    | name, rest => (name, (rest[0]?).getD (.bytes []))
  match data with
  | .bytes t =>
    make (.made (.type "_hashlib.HASH") [("name", .text kind.toList), (".data", .bytes t)] none)
  | _ => typeError "Strings must be encoded before hashing"

/-- Bytes in digits and back. -/
def digitsCall (name : String) (g : Given) : Running Value := do
  let t : Octets := match (g.plain[0]?).getD .none with
    | .bytes t => t
    | .text t => encode t
    | _ => []
  let decodedBy (a : Utility.Alphabet) : Running Value := do
    let (bytes, fine) := a.decode (t.filter fun c => c != '\n' && c != '\r' && c != ' ')
    if fine then return .bytes bytes else fail "binascii.Error" "Incorrect padding"
  match name with
  | "b64encode" => return .bytes (Utility.alphabet64.encode t)
  | "standard_b64encode" => return .bytes (Utility.alphabet64.encode t)
  | "b64decode" => decodedBy Utility.alphabet64
  | "standard_b64decode" => decodedBy Utility.alphabet64
  | "urlsafe_b64encode" =>
    return .bytes ((Utility.alphabet64.encode t).map fun c => if c = '+' then '-' else if c = '/' then '_' else c)
  | "b32encode" => return .bytes (Utility.alphabet32.encode t)
  | "b32decode" => decodedBy Utility.alphabet32
  | "b16encode" => return .bytes ((t.flatMap fun c => hexDigits 2 c.toNat).map Char.toUpper)
  | "hexlify" => return .bytes (t.flatMap fun c => hexDigits 2 c.toNat)
  | "unhexlify" => return .bytes (bytesOfHex t)
  | _ => return .none

/-! ## Texts of several lines -/

/-- A text without the blanks that all its lines begin with. -/
def dedented (t : Text) : Text :=
  let lines := Text.splitOn '\n' t
  let lines := lines.map fun l => if l.all (fun c => c == ' ' || c == '\t') then [] else l
  let fronts := (lines.filter (· ≠ [])).map fun l => l.takeWhile fun c => c == ' ' || c == '\t'
  let common := fronts.tail.foldl (fun (a : Text) b =>
    ((a.zip b).takeWhile fun (x, y) => x == y).map Prod.fst) (fronts.headD [])
  Text.joinWith ['\n'] (lines.map fun l => l.drop common.length)

/-- The parts of a text between which a line can end: blanks, and words up to their dashes. -/
def wrapParts : Nat → Text → List Text
  | 0, t => [t]
  | _, [] => []
  | fuel + 1, c :: rest =>
    let t := c :: rest
    if c = ' ' then
      let blanks := t.takeWhile (· = ' ')
      blanks :: wrapParts fuel (t.drop blanks.length)
    else
      let w := t.takeWhile (· ≠ ' ')
      let dash := (List.range w.length).find? fun i =>
        w[i]? == some '-' && 0 < i && ((w[i - 1]?).getD ' ').isAlpha && ((w[i + 1]?).getD ' ').isAlpha
      let part := match dash with
        | some i => w.take (i + 1)
        | none => w
      part :: wrapParts fuel (t.drop part.length)

/-- The lines of parts that are not longer than they may be. -/
def wrapLines (width : Nat) (front behind : Text) : Nat → (isFirst : Bool) → List Text → List Text
  | 0, _, _ => []
  | _, _, [] => []
  | fuel + 1, isFirst, p :: rest =>
    let isBlank (t : Text) : Bool := t.all (· == ' ')
    if isBlank p && !isFirst then wrapLines width front behind fuel isFirst rest
    else
      let indent := if isFirst then front else behind
      let room := width - indent.length
      let rec take (used : Nat) (line : List Text) : List Text → List Text × List Text
        | [] => (line, [])
        | p :: rest =>
          if used + p.length ≤ room then take (used + p.length) (p :: line) rest else (line, p :: rest)
      let (line, left) := take 0 [] (p :: rest)
      let used := (line.map List.length).foldl (· + ·) 0
      let (line, left) := match left with
        | [] => (line, [])
        | p :: more =>
          if room < p.length then
            let n := max 1 (room - used)
            (p.take n :: line, p.drop n :: more)
          else (line, p :: more)
      let line := match line with
        | p :: before => if isBlank p then before else line
        | [] => []
      if line.isEmpty then wrapLines width front behind fuel isFirst left
      else (indent ++ line.reverse.flatten) :: wrapLines width front behind fuel false left

/-- The lines of a text that is wrapped as a call says. -/
def wrapped (w : Ways) (g : Given) : Running (List Text) := do
  let option (name : String) : Text := match g.named.lookup name with
    | some (.text t) => t
    | _ => []
  match (g.plain[0]?).getD .none with
  | .text t =>
    let width ← match g.at? 1 "width" with
      | some v => wholeNumber w v
      | none => pure 70
    let t := t.map fun c => if isGap c then ' ' else c
    return wrapLines width.toNat (option "initial_indent") (option "subsequent_indent") (4 * t.length + 4) true
      (wrapParts (t.length + 1) t)
  | _ => typeError "expected string"

end Equate.Shell.Dynamic
