import Equate.Shell.Dynamic.Comparing

/-!
# Going through values

Whatever has items can be gone through: sequences at their positions, tables by their keys,
instances as their classes say. An iterator takes what it goes through as it comes.
-/
namespace Equate.Shell.Dynamic

/-- How often a loop can run. -/
def turnLimit : Nat := 100000000

/-- How many numbers a range has. -/
def rangeLength (first last step : Int) : Nat :=
  if 0 < step then ((last - first + step - 1).fdiv step).toNat
  else if step < 0 then ((first - last - step - 1).fdiv (-step)).toNat
  else 0

/-- The numbers of a range, so many at most. -/
def rangeItems : Nat → (next last step : Int) → List Value
  | 0, _, _, _ => []
  | n + 1, next, last, step =>
    if (0 < step ∧ last ≤ next) ∨ (step ≤ 0 ∧ next ≤ last) then []
    else .int next :: rangeItems n (next + step) last step

/-- An iterator for a value. -/
def iterator (w : Ways) (v : Value) : Running Value := do
  let refused : Running Value := do
    typeError ('\'' :: (← typeName v).toList ++ "' object is not iterable")
  match v with
  | .tuple items => makeIterator (.values items)
  | .text t => makeIterator (.values (t.map fun c => .text [c]))
  | .bytes t => makeIterator (.values (t.map fun c => .int c.toNat))
  | .range a b c => makeIterator (.range a b c)
  | .view kind self =>
    match ← objectOf? self, self with
    | some (.dict t _ _), .object n =>
      let items := if kind = "keys" then t.keys else if kind = "values" then t.values
        else t.toList.map fun (k, v) => .tuple [k, v]
      makeIterator (.table n t.size items)
    | _, _ => makeIterator (.values [])
  | .type name =>
    if name = "Enum" then refused else refused
  | .object n =>
    match ← objectAt? n with
    | some (.list _) => makeIterator (.list n 0)
    | some (.deque items _) => makeIterator (.values items.toList)
    | some (.dict t _ _) => makeIterator (.table n t.size t.keys)
    | some (.set t _) => makeIterator (.values t.members)
    | some (.iterator _) => return v
    | some (.generator ..) => return v
    | some (.file _) => return v
    | some (.buffer ..) => return v
    | some (.kind k) =>
      if ← isBelow v (.type "Enum") then
        let members := k.fields.filterMap fun (name, m) =>
          match m with
          | .object _ => some (name, m)
          | _ => none
        let own ← members.filterM fun (_, m) => do return isSame (← typeOf m) v
        makeIterator (.values (own.foldl (fun kept m => if kept.any (isSame m.2) then kept else kept ++ [m.2]) []))
      else refused
    | some (.made _ _ core) =>
      match ← ask? w v "__iter__" [] with
      | some it => return it
      | none =>
        match core with
        | some (.tuple items) => makeIterator (.values items)
        | some (.text t) => makeIterator (.values (t.map fun c => .text [c]))
        | some (.object n) =>
          match ← objectAt? n with
          | some (.list _) => makeIterator (.list n 0)
          | some (.dict t _ _) => makeIterator (.table n t.size t.keys)
          | some (.set t _) => makeIterator (.values t.members)
          | _ => refused
        | _ =>
          if (← special? v "__getitem__").isSome then makeIterator (.indexed v 0) else refused
    | _ => refused
  | _ => refused

/-- All that an iterator has left, so much at most. -/
def drain (w : Ways) (it : Value) : Nat → List Value → Running (List Value)
  | 0, found => return found.reverse
  | n + 1, found => do
    match ← w.next it with
    | some v => drain w it n (v :: found)
    | none => return found.reverse

/-- The items of a value. -/
def itemsOf (w : Ways) (v : Value) : Running (List Value) := do
  match v with
  | .tuple items => return items
  | .range a b c => return rangeItems (rangeLength a b c) a b c
  | .object n =>
    match ← objectAt? n with
    | some (.list items) => return items.toList
    | some (.dict t _ _) => return t.keys
    | some (.set t _) => return t.members
    | _ => drain w (← iterator w v) turnLimit []
  | v => drain w (← iterator w v) turnLimit []

/-- The next values of several iterators. -/
def nextOfAll (w : Ways) : List Value → Running (Option (List Value))
  | [] => return some []
  | it :: rest => do
    match ← w.next it with
    | none => return none
    | some v =>
      match ← nextOfAll w rest with
      | none => return none
      | some vs => return some (v :: vs)

/-- The next value that is wanted. -/
def nextWanted (w : Ways) (f source : Value) (wanted : Bool) : Nat → Running (Option Value)
  | 0 => return none
  | n + 1 => do
    match ← w.next source with
    | none => return none
    | some v =>
      let r ← match f with
        | .none => isTrue w v
        | f => do isTrue w (← w.call f [v] [])
      if r == wanted then return some v else nextWanted w f source wanted n

/-- The next value of several things to go through. -/
def nextInChain (w : Ways) (number : Nat) (sources : Value) : Nat → Option Value → Running (Option Value)
  | 0, _ => return none
  | n + 1, current => do
    let further : Running (Option Value) := do
      match ← w.next sources with
      | none => return none
      | some v => nextInChain w number sources n (some (← iterator w v))
    match current with
    | none => further
    | some it =>
      match ← w.next it with
      | some v =>
        setObject number (.iterator (.chain (some it) sources))
        return some v
      | none => further

/-- So many values are left out. -/
def skipValues (w : Ways) (it : Value) : Nat → Running Unit
  | 0 => return
  | n + 1 => do
    match ← w.next it with
    | some _ => skipValues w it n
    | none => return

/-- The next value of an iterator by its supply. -/
def nextOf (w : Ways) (number : Nat) (s : Supply) : Running (Option Value) := do
  let keep (s : Supply) : Running Unit := setObject number (.iterator s)
  let give (v : Value) (s : Supply) : Running (Option Value) := do
    keep s
    return some v
  match s with
  | .values [] => return none
  | .values (v :: rest) => give v (.values rest)
  | .list n i =>
    match ← objectAt? n with
    | some (.list items) =>
      match items[i]? with
      | some v => give v (.list n (i + 1))
      | none => keep (.values []); return none
    | _ => return none
  | .table n size rest =>
    match rest with
    | [] => return none
    | v :: rest =>
      match ← objectAt? n with
      | some (.dict t _ _) =>
        if t.size = size then give v (.table n size rest)
        else fail "RuntimeError" "dictionary changed size during iteration"
      | _ => give v (.table n size rest)
  | .range next last step =>
    if (0 < step ∧ last ≤ next) ∨ (step ≤ 0 ∧ next ≤ last) then return none
    else give (.int next) (.range (next + step) last step)
  | .count next step =>
    let after := match next, step with
      | .int a, .int b => Value.int (a + b)
      | a, b => .float ((floatOf? a).getD 0 + (floatOf? b).getD 0)
    give next (.count after step)
  | .again v => return some v
  | .cycle rest all =>
    match rest, all with
    | v :: rest, all => give v (.cycle rest all)
    | [], v :: more => give v (.cycle more (v :: more))
    | [], [] => return none
  | .map f sources =>
    match ← nextOfAll w sources with
    | some vs => return some (← w.call f vs [])
    | none => return none
  | .filter f source wanted => nextWanted w f source wanted turnLimit
  | .zip sources =>
    if sources.isEmpty then return none
    else
      match ← nextOfAll w sources with
      | some vs => return some (.tuple vs)
      | none => return none
  | .enumerate next source =>
    match ← w.next source with
    | some v => give (.tuple [.int next, v]) (.enumerate (next + 1) source)
    | none => return none
  | .chain current sources => nextInChain w number sources turnLimit current
  | .part source skip left step =>
    if left = some 0 then return none
    else
      skipValues w source skip
      match ← w.next source with
      | some v =>
        let left := left.map fun n => n - step
        give v (.part source (step - 1) left step)
      | none => return none
  | .takeWhile f source =>
    match ← w.next source with
    | some v =>
      if ← isTrue w (← w.call f [v] []) then return some v
      else
        keep (.values [])
        return none
    | none => return none
  | .dropWhile f source =>
    match ← nextWanted w f source false turnLimit with
    | some v =>
      keep (.chain (some source) (← makeIterator (.values [])))
      return some v
    | none => return none
  | .call f stop =>
    let v ← w.call f [] []
    if ← areEqual w v stop then
      keep (.values [])
      return none
    else return some v
  | .indexed v i =>
    catching ["IndexError", "StopIteration"] (do
        match ← ask? w v "__getitem__" [.int i] with
        | some x => give x (.indexed v (i + 1))
        | none => return none) fun _ => do
      keep (.values [])
      return none

/-! ## Lengths and membership -/

/-- How many items a value has, if it knows. -/
def length? (w : Ways) (v : Value) : Running (Option Nat) := do
  match v with
  | .text t => return some t.length
  | .bytes t => return some t.length
  | .tuple items => return some items.length
  | .range a b c => return some (rangeLength a b c)
  | .view _ self =>
    match ← objectOf? self with
    | some (.dict t _ _) => return some t.size
    | _ => return none
  | .object n =>
    match ← objectAt? n with
    | some (.list items) => return some items.size
    | some (.deque items _) => return some items.size
    | some (.dict t _ _) => return some t.size
    | some (.set t _) => return some t.size
    | some (.kind _) =>
      if ← isBelow v (.type "Enum") then return some (← itemsOf w v).length else return none
    | some (.made _ _ core) =>
      match ← ask? w v "__len__" [] with
      | some (.int n) =>
        if n < 0 then valueError "__len__() should return >= 0" else return some n.toNat
      | some (.bool b) => return some (if b then 1 else 0)
      | some other => typeError ('\'' :: (← typeName other).toList ++ "' object cannot be interpreted as an integer")
      | none =>
        match core with
        | some (.text t) => return some t.length
        | some (.tuple items) => return some items.length
        | some (.object n) =>
          match ← objectAt? n with
          | some (.list items) => return some items.size
          | some (.dict t _ _) => return some t.size
          | some (.set t _) => return some t.size
          | _ => return none
        | _ => return none
    | _ => return none
  | _ => return none

/-- How many items a value has. -/
def lengthOf (w : Ways) (v : Value) : Running Nat := do
  match ← length? w v with
  | some n => return n
  | none => typeError ("object of type '" ++ (← typeName v).toList ++ "' has no len()")

/-- A text occurs in another one, from a position on; the first position. -/
def findText (part : Text) : (position : Nat) → Text → Option Nat
  | i, [] => if part = [] then some i else none
  | i, c :: rest => if part.isPrefixOf (c :: rest) then some i else findText part (i + 1) rest

/-- A value is among some. -/
def isAmong (w : Ways) (v : Value) : List Value → Running Bool
  | [] => return false
  | u :: rest => do if ← sameOrEqual w u v then return true else isAmong w v rest

/-- A value is within another one. -/
def isWithin (w : Ways) (v container : Value) : Running Bool := do
  let core ← match ← ask? w container "__contains__" [v] with
    | some r => return ← isTrue w r
    | none => coreOf container
  match core with
  | .text t =>
    match ← coreOf v with
    | .text part => return (findText part 0 t).isSome
    | v => typeError ("'in <string>' requires string as left operand, not " ++ (← typeName v).toList)
  | .bytes t =>
    match v with
    | .bytes part => return (findText part 0 t).isSome
    | .int n => return t.any fun c => (c.toNat : Int) == n
    | v => typeError ("a bytes-like object is required, not '" ++ (← typeName v).toList ++ ['\''])
  | .range a b c =>
    match quantity? v with
    | some (.int n) =>
      return if 0 < c then decide (a ≤ n ∧ n < b) && (n - a).fmod c == 0
        else decide (n ≤ a ∧ b < n) && (a - n).fmod (-c) == 0
    | _ => return false
  | .view kind self =>
    match ← objectOf? self with
    | some (.dict t _ _) =>
      if kind = "keys" then return t.has (← keyOf w v)
      else if kind = "values" then isAmong w v t.values
      else isAmong w v (t.toList.map fun (k, v) => .tuple [k, v])
    | _ => return false
  | core =>
    match ← objectOf? core with
    | some (.dict t _ _) => return t.has (← keyOf w v)
    | some (.set t _) => return t.has (← keyOf w v)
    | some (.list items) => isAmong w v items.toList
    | _ =>
      match core with
      | .tuple items => isAmong w v items
      | core =>
        match ← objectOf? core with
        | some (.made ..) =>
          if (← special? core "__iter__").isSome || (← special? core "__getitem__").isSome then
            isAmong w v (← itemsOf w core)
          else refused core
        | some (.function _) => refused core
        | none => refused core
        | _ => isAmong w v (← itemsOf w core)
where
  /-- Nothing can be within the value. -/
  refused (v : Value) : Running Bool := do
    typeError ("argument of type '" ++ (← typeName v).toList ++ "' is not iterable")

/-! ## Indexes -/

/-- The whole number that an index is. -/
def indexNumber? (w : Ways) (v : Value) : Running (Option Int) := do
  match ← coreOf v with
  | .int n => return some n
  | .bool b => return some (if b then 1 else 0)
  | _ =>
    match ← ask? w v "__index__" [] with
    | some (.int n) => return some n
    | _ => return none

/-- A whole number that something asks for. -/
def wholeNumber (w : Ways) (v : Value) : Running Int := do
  match ← indexNumber? w v with
  | some n => return n
  | none => typeError ('\'' :: (← typeName v).toList ++ "' object cannot be interpreted as an integer")

/-- The position of an index among so many items. -/
def positionOf (size : Nat) (n : Int) : Option Nat :=
  let n := if n < 0 then n + size else n
  if n < 0 ∨ (size : Int) ≤ n then none else some n.toNat

/-- The positions of a slice among so many items. -/
def slicePositions (w : Ways) (size : Nat) (first last step : Value) : Running (List Nat) := do
  let number (v : Value) : Running (Option Int) := do
    match v with
    | .none => return none
    | v =>
      match ← indexNumber? w v with
      | some n => return some n
      | none => typeError "slice indices must be integers or None or have an __index__ method"
  let step := (← number step).getD 1
  if step = 0 then valueError "slice step cannot be zero"
  let clamp (low high n : Int) : Int :=
    let n := if n < 0 then n + size else n
    max low (min high n)
  let size' : Int := size
  let (a, b) ← if 0 < step then do
      pure (((← number first).map (clamp 0 size')).getD 0, ((← number last).map (clamp 0 size')).getD size')
    else do
      pure (((← number first).map (clamp (-1) (size' - 1))).getD (size' - 1),
        ((← number last).map (clamp (-1) (size' - 1))).getD (-1))
  return (rangeItems (rangeLength a b step) a b step).filterMap fun
    | .int n => some n.toNat
    | _ => none

/-- The items at some positions. -/
def pick {α : Type} (items : List α) (positions : List Nat) : List α :=
  match positions with
  | [] => []
  | first :: _ =>
    let consecutive := positions.zipIdx.all fun (p, i) => p == first + i
    if consecutive then (items.drop first).take positions.length
    else
      let all := items.toArray
      positions.filterMap fun i => all[i]?

/-- The item at an index. -/
def itemAt (w : Ways) (v index : Value) : Running Value := do
  let number (kind : String) : Running Int := do
    match ← indexNumber? w index with
    | some n => return n
    | none => typeError (kind.toList ++ " indices must be integers or slices, not " ++ (← typeName index).toList)
  let outside {α : Type} (kind : String) : Running α := fail "IndexError" (kind.toList ++ " index out of range")
  let inItems (kind : String) (items : List Value) (make : List Value → Running Value) : Running Value := do
    match index with
    | .slice a b c => make (pick items (← slicePositions w items.length a b c))
    | _ =>
      match (positionOf items.length (← number kind)).bind fun i => items[i]? with
      | some v => return v
      | none => outside kind
  let core ← match ← ask? w v "__getitem__" [index] with
    | some r => return r
    | none => coreOf v
  match core with
  | .tuple items => inItems "tuple" items fun items => return .tuple items
  | .text t =>
    match index with
    | .slice a b c => return .text (pick t (← slicePositions w t.length a b c))
    | _ =>
      match ← indexNumber? w index with
      | none => typeError ("string indices must be integers, not '" ++ (← typeName index).toList ++ ['\''])
      | some n =>
        match (positionOf t.length n).bind fun i => t[i]? with
        | some c => return .text [c]
        | none => outside "string"
  | .bytes t =>
    match index with
    | .slice a b c => return .bytes (pick t (← slicePositions w t.length a b c))
    | _ =>
      match (positionOf t.length (← number "byte")).bind fun i => t[i]? with
      | some c => return .int c.toNat
      | none => fail "IndexError" "index out of range"
  | .range a b c =>
    let size := rangeLength a b c
    match index with
    | .slice x y z =>
      let positions ← slicePositions w size x y z
      match positions with
      | [] => return .range a a 1
      | [p] => return .range (a + p * c) (a + p * c + c) c
      | p :: q :: _ =>
        let step := ((q : Int) - p) * c
        let first := a + p * c
        return .range first (first + step * positions.length) step
    | _ =>
      match positionOf size (← number "range") with
      | some i => return .int (a + i * c)
      | none => fail "IndexError" "range object index out of range"
  | .type name => return .type name
  | core =>
    match ← objectOf? core with
    | some (.list items) =>
      match index with
      | .slice .. => inItems "list" items.toList makeList
      | _ =>
        match (positionOf items.size (← number "list")).bind fun i => items[i]? with
        | some v => return v
        | none => outside "list"
    | some (.deque items _) =>
      match (positionOf items.size (← number "sequence")).bind fun i => items[i]? with
      | some v => return v
      | none => fail "IndexError" "deque index out of range"
    | some (.dict t kind f) =>
      let mark ← keyOf w index
      match t.value? mark with
      | some v => return v
      | none =>
        if kind = "Counter" then return .int 0
        else
          match f, core with
          | .none, _ =>
            match ← ask? w v "__missing__" [index] with
            | some r => return r
            | none => keyError index
          | f, .object n =>
            let made ← w.call f [] []
            match ← objectAt? n with
            | some (.dict t kind f) => setObject n (.dict (t.put mark index made) kind f)
            | _ => pure ()
            return made
          | _, _ => keyError index
    | some (.kind k) =>
      if ← isBelow core (.type "Enum") then
        match index with
        | .text t =>
          match k.fields.lookup (String.ofList t) with
          | some m => return m
          | none => keyError index
        | _ => keyError index
      else
        match ← classAttribute? core "__class_getitem__" with
        | some f => w.call f [core, index] []
        | none => return core
    | some (.found p text f) => group w p text f index
    | _ => typeError ('\'' :: (← typeName v).toList ++ "' object is not subscriptable")
where
  /-- What a group has matched. -/
  group (w : Ways) (p : Searching) (text : Array Char) (f : Match.Found) (index : Value) : Running Value := do
    let number : Option Nat ← match index with
      | .text name => pure (p.names.lookup name)
      | v => pure ((← indexNumber? w v).map Int.toNat)
    match number with
    | none => fail "IndexError" "no such group"
    | some 0 => return .text (text.extract f.first f.last).toList
    | some n =>
      if p.count < n then fail "IndexError" "no such group"
      else
        match f.groups.lookup n with
        | some (a, b) => return .text (text.extract a b).toList
        | none => return .none

/-- A value is put at an index. -/
def setItem (w : Ways) (v index x : Value) : Running Unit := do
  let core ← match ← ask? w v "__setitem__" [index, x] with
    | some _ => return
    | none => coreOf v
  match core, ← objectOf? core with
  | .object n, some (.list items) =>
    match index with
    | .slice a b c =>
      let positions ← slicePositions w items.size a b c
      let new ← itemsOf w x
      match c with
      | .none =>
        let start ← match a with
          | .none => pure 0
          | a => do
            let k := (← indexNumber? w a).getD 0
            pure (max 0 (min (items.size : Int) (if k < 0 then k + items.size else k))).toNat
        let all := items.toList
        let start := positions.headD start
        setObject n (.list (all.take start ++ new ++ all.drop (start + positions.length)).toArray)
      | _ =>
        if positions.length != new.length then
          valueError ("attempt to assign sequence of size " ++ Text.decimal new.length ++
            " to extended slice of size " ++ Text.decimal positions.length)
        setObject n (.list ((positions.zip new).foldl (fun items (i, v) => items.setIfInBounds i v) items))
    | _ =>
      match ← indexNumber? w index with
      | none => typeError ("list indices must be integers or slices, not " ++ (← typeName index).toList)
      | some k =>
        match positionOf items.size k with
        | some i =>
          modify fun m => { m with store := m.store.modify n fun
            | .list items => .list (items.setIfInBounds i x)
            | o => o }
        | none => fail "IndexError" "list assignment index out of range"
  | .object n, some (.deque items most) =>
    match (← indexNumber? w index).bind (positionOf items.size) with
    | some i => setObject n (.deque (items.setIfInBounds i x) most)
    | none => fail "IndexError" "deque index out of range"
  | .object n, some (.dict ..) =>
    let mark ← keyOf w index
    modify fun m => { m with store := m.store.modify n fun
      | .dict t kind f => .dict (t.put mark index x) kind f
      | o => o }
  | _, _ => typeError ('\'' :: (← typeName v).toList ++ "' object does not support item assignment")

/-- What stands at an index is taken away. -/
def deleteItem (w : Ways) (v index : Value) : Running Unit := do
  let core ← match ← ask? w v "__delitem__" [index] with
    | some _ => return
    | none => coreOf v
  match core, ← objectOf? core with
  | .object n, some (.list items) =>
    match index with
    | .slice a b c =>
      let positions ← slicePositions w items.size a b c
      let kept := items.toList.zipIdx.filter fun (_, i) => !positions.contains i
      setObject n (.list (kept.map Prod.fst).toArray)
    | _ =>
      match ← indexNumber? w index with
      | none => typeError ("list indices must be integers or slices, not " ++ (← typeName index).toList)
      | some k =>
        match positionOf items.size k with
        | some i => setObject n (.list (items.eraseIdxIfInBounds i))
        | none => fail "IndexError" "list assignment index out of range"
  | .object n, some (.deque items most) =>
    match (← indexNumber? w index).bind (positionOf items.size) with
    | some i => setObject n (.deque (items.eraseIdxIfInBounds i) most)
    | none => fail "IndexError" "deque index out of range"
  | .object n, some (.dict t kind f) =>
    let mark ← keyOf w index
    if t.has mark then setObject n (.dict (t.drop mark) kind f) else keyError index
  | _, _ => typeError ('\'' :: (← typeName v).toList ++ "' object doesn't support item deletion")

end Equate.Shell.Dynamic
