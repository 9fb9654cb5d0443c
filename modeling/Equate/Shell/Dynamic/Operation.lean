import Equate.Shell.Dynamic.Sequence

/-!
# Operators

Whole numbers stay whole as long as nothing is divided. Sequences are joined and repeated,
sets and tables united. An instance is asked for its method, on the left first.
-/
namespace Equate.Shell.Dynamic

/-- The sign of an operator. -/
def Operator.sign : Operator → String
  | .add => "+"
  | .subtract => "-"
  | .multiply => "*"
  | .divide => "/"
  | .floorDivide => "//"
  | .modulo => "%"
  | .power => "**"
  | .shiftLeft => "<<"
  | .shiftRight => ">>"
  | .bitAnd => "&"
  | .bitOr => "|"
  | .bitXor => "^"
  | .matrix => "@"

/-- What the methods of an operator are called. -/
def Operator.method : Operator → String
  | .add => "add"
  | .subtract => "sub"
  | .multiply => "mul"
  | .divide => "truediv"
  | .floorDivide => "floordiv"
  | .modulo => "mod"
  | .power => "pow"
  | .shiftLeft => "lshift"
  | .shiftRight => "rshift"
  | .bitAnd => "and"
  | .bitOr => "or"
  | .bitXor => "xor"
  | .matrix => "matmul"

/-- The bits that two numbers have in common. A negative number has all bits but those of its
opposite less one. -/
def bitAnd (a b : Int) : Int :=
  match a, b with
  | .ofNat a, .ofNat b => Int.ofNat (Nat.land a b)
  | .ofNat a, .negSucc b => Int.ofNat (a - Nat.land a b)
  | .negSucc a, .ofNat b => Int.ofNat (b - Nat.land a b)
  | .negSucc a, .negSucc b => .negSucc (Nat.lor a b)

/-- All other bits. -/
def bitNot (a : Int) : Int := -a - 1

/-- The bits that one of two numbers has. -/
def bitOr (a b : Int) : Int := bitNot (bitAnd (bitNot a) (bitNot b))

/-- The bits that only one of two numbers has. -/
def bitXor (a b : Int) : Int := bitAnd (bitOr a b) (bitNot (bitAnd a b))

/-- A result that is too large. -/
def tooLarge {α : Type} : Running α := do
  raise (← exception "OverflowError" [.int 34, .text "Numerical result out of range"] [])

/-- A whole number as one of binary64. -/
def floatOfInt (n : Int) : Running Float := do
  match Numeral.ofInt? n with
  | some x => return x
  | none => fail "OverflowError" "int too large to convert to float"

/-- The power of two numbers of binary64. -/
def floatPower (x y : Float) : Running Value := do
  if x == 0 && y < 0 then fail "ZeroDivisionError" "0.0 cannot be raised to a negative power"
  else
    let z := Float.pow x y
    if Numeral.isNaN z && !Numeral.isNaN x && !Numeral.isNaN y then
      valueError "negative number cannot be raised to a fractional power"
    else if Numeral.isInfinite z && Numeral.isFinite x && Numeral.isFinite y then tooLarge
    else return .float z

/-- Two numbers of binary64 by an operator. -/
def floatOperation (operator : Operator) (x y : Float) : Running (Option Value) := do
  match operator with
  | .add => return some (.float (x + y))
  | .subtract => return some (.float (x - y))
  | .multiply => return some (.float (x * y))
  | .divide =>
    if y == 0 then fail "ZeroDivisionError" "float division by zero" else return some (.float (x / y))
  | .floorDivide =>
    if y == 0 then fail "ZeroDivisionError" "float floor division by zero"
    else return some (.float (Numeral.floorDivide x y))
  | .modulo =>
    if y == 0 then fail "ZeroDivisionError" "float modulo" else return some (.float (Numeral.modulo x y))
  | .power => return some (← floatPower x y)
  | _ => return none

/-- How large a power or a shift may become, in bits. -/
def bitLimit : Nat := 20000000

/-- Two whole numbers by an operator. -/
def intOperation (operator : Operator) (a b : Int) : Running (Option Value) := do
  let give (n : Int) : Running (Option Value) := return some (.int n)
  match operator with
  | .add => give (a + b)
  | .subtract => give (a - b)
  | .multiply => give (a * b)
  | .divide =>
    if b = 0 then fail "ZeroDivisionError" "division by zero"
    else
      match Numeral.quotient? a b with
      | some x => return some (.float x)
      | none => fail "OverflowError" "integer division result too large for a float"
  | .floorDivide =>
    if b = 0 then fail "ZeroDivisionError" "integer division or modulo by zero" else give (a.fdiv b)
  | .modulo =>
    if b = 0 then fail "ZeroDivisionError" "integer modulo by zero" else give (a.fmod b)
  | .power =>
    if b < 0 then
      if a = 0 then fail "ZeroDivisionError" "0.0 cannot be raised to a negative power"
      else return some (← floatPower (← floatOfInt a) (← floatOfInt b))
    else if bitLimit < a.natAbs.log2 * b.toNat then fail "MemoryError" []
    else
      let n : Int := Nat.pow a.natAbs b.toNat
      give (if a < 0 ∧ b % 2 = 1 then -n else n)
  | .shiftLeft =>
    if b < 0 then valueError "negative shift count"
    else if bitLimit < b.toNat ∧ a ≠ 0 then fail "MemoryError" []
    else give (if a = 0 then 0 else a * (Nat.pow 2 b.toNat : Nat))
  | .shiftRight =>
    if b < 0 then valueError "negative shift count"
    else if bitLimit < b.toNat then give (if a < 0 then -1 else 0)
    else give (a.fdiv (Nat.pow 2 b.toNat : Nat))
  | .bitAnd => give (bitAnd a b)
  | .bitOr => give (bitOr a b)
  | .bitXor => give (bitXor a b)
  | .matrix => return none

/-- Items again and again. -/
def repeated {α : Type} (n : Int) (items : List α) : List α := (List.replicate n.toNat items).flatten

/-- The entries of both tables. -/
def united (t u : Table) : Table :=
  (u.marks.zip u.toList).foldl (fun t (mark, k, v) => t.put mark k v) t

/-- The entries of a table that a test lets through. -/
def keptIn (t : Table) (keep : Text → Bool) : Table :=
  (t.marks.zip t.toList).foldl (fun r (mark, k, v) => if keep mark then r.put mark k v else r) Table.empty

/-- A table of values as keys, for a set. -/
def tableOfItems (w : Ways) (items : List Value) : Running Table :=
  items.foldlM (fun t v => do return t.put (← keyOf w v) v .none) Table.empty

/-- Counts by an operator. -/
def countsBy (operator : Operator) (t u : Table) : Table :=
  let number (t : Table) (mark : Text) : Int := match t.value? mark with
    | some (.int n) => n
    | _ => 0
  let all := united t u
  (all.marks.zip all.toList).foldl (fun r (mark, k, _) =>
    let a := number t mark
    let b := number u mark
    let n := match operator with
      | .add => a + b
      | .subtract => a - b
      | .bitAnd => min a b
      | _ => max a b
    if 0 < n then r.put mark k (.int n) else r) Table.empty

/-- Two values that are no numbers by an operator, if that means something. -/
def collectionOperation (w : Ways) (operator : Operator) (a b : Value) : Running (Option Value) := do
  let whole? : Value → Option Int
    | .int n => some n
    | .bool b => some (if b then 1 else 0)
    | _ => none
  match operator, a, b with
  | .add, .text x, .text y => return some (.text (x ++ y))
  | .add, .bytes x, .bytes y => return some (.bytes (x ++ y))
  | .add, .tuple x, .tuple y => return some (.tuple (x ++ y))
  | .multiply, .text x, n => return (whole? n).map fun n => .text (repeated n x)
  | .multiply, n, .text x => return (whole? n).map fun n => .text (repeated n x)
  | .multiply, .bytes x, n => return (whole? n).map fun n => .bytes (repeated n x)
  | .multiply, n, .bytes x => return (whole? n).map fun n => .bytes (repeated n x)
  | .multiply, .tuple x, .int n => return some (.tuple (repeated n x))
  | .multiply, .int n, .tuple x => return some (.tuple (repeated n x))
  | .modulo, .text x, y => return some (.text (← directives x y))
  | .modulo, .bytes x, y => return some (.bytes (encode (← directives x y)))
  | _, .view kind self, y =>
    if kind = "values" then return none
    else
      let t ← tableOfItems w (← itemsOf w (.view kind self))
      let u ← tableOfItems w (← itemsOf w y)
      setsBy operator t u false
  | _, x, y =>
    match operator, ← objectOf? x, ← objectOf? y with
    | .add, some (.list u), some (.list v) => return some (← make (.list (u ++ v)))
    | .add, some (.deque u most), some (.deque v _) => return some (← make (.deque (u ++ v) most))
    | .multiply, some (.list u), none =>
      match whole? y with
      | some n => return some (← makeList (repeated n u.toList))
      | none => return none
    | .multiply, none, some (.list u) =>
      match whole? x with
      | some n => return some (← makeList (repeated n u.toList))
      | none => return none
    | operator, some (.set t frozen), some (.set u _) => setsBy operator t u frozen
    | operator, some (.set t frozen), none =>
      match y with
      | .view .. => setsBy operator t (← tableOfItems w (← itemsOf w y)) frozen
      | _ => return none
    | operator, some (.dict t kind f), some (.dict u other _) =>
      if kind = "Counter" && other = "Counter" then
        if operator = .add || operator = .subtract || operator = .bitAnd || operator = .bitOr then
          return some (← make (.dict (countsBy operator t u) "Counter" .none))
        else return none
      else if operator = .bitOr then return some (← make (.dict (united t u) kind f))
      else return none
    | _, _, _ => return none
where
  /-- A text with directives. -/
  directives (x : Text) (y : Value) : Running Text := do
    let mapping (key : String) : Running Value := itemAt w y (.text key.toList)
    let isMapping := match ← objectOf? y with
      | some (.dict ..) => true
      | _ => false
    match y with
    | .tuple items => percent w mapping (x.length + 1) x items false
    | y =>
      match ← coreOf y with
      | .tuple items => percent w mapping (x.length + 1) x items false
      | _ => percent w (fun key => do
          if isMapping then mapping key else typeError "format requires a mapping") (x.length + 1) x [y] isMapping
  /-- Two sets by an operator. -/
  setsBy (operator : Operator) (t u : Table) (frozen : Bool) : Running (Option Value) := do
    let give (r : Table) : Running (Option Value) := return some (← make (.set r frozen))
    match operator with
    | .bitOr => give (united t u)
    | .bitAnd => give (keptIn t u.has)
    | .subtract => give (keptIn t fun k => !u.has k)
    | .bitXor => give (united (keptIn t fun k => !u.has k) (keptIn u fun k => !t.has k))
    | _ => return none

/-- Two values by an operator, whatever their classes say. -/
def plainOperation (w : Ways) (operator : Operator) (a b : Value) : Running (Option Value) := do
  match a, b with
  | .float x, .float y => floatOperation operator x y
  | .int x, .int y => intOperation operator x y
  | _, _ =>
    match quantity? a, quantity? b with
    | some (.int x), some (.int y) =>
      match a, b, operator with
      | .bool x, .bool y, .bitAnd => return some (.bool (x && y))
      | .bool x, .bool y, .bitOr => return some (.bool (x || y))
      | .bool x, .bool y, .bitXor => return some (.bool (x != y))
      | _, _, operator => intOperation operator x y
    | some (.int x), some (.float y) => floatOperation operator (← floatOfInt x) y
    | some (.float x), some (.int y) => floatOperation operator x (← floatOfInt y)
    | some (.float x), some (.float y) => floatOperation operator x y
    | _, _ => collectionOperation w operator a b

/-- The answer of a method of an operator, if it has one. -/
def answerOf? (w : Ways) (v : Value) (method : String) (arguments : List Value) : Running (Option Value) := do
  match ← ask? w v method arguments with
  | some .notImplemented => return none
  | r => return r

/-- The operands cannot be put together. -/
def refusedOperation {α : Type} (operator : Operator) (sign : String) (a b : Value) : Running α := do
  let s ← typeName a
  let t ← typeName b
  match operator, a, b with
  | .add, .text _, _ => typeError ("can only concatenate str (not \"" ++ t.toList ++ "\") to str")
  | .add, .bytes _, _ => typeError ("can't concat " ++ t.toList ++ " to bytes")
  | .add, .tuple _, _ => typeError ("can only concatenate tuple (not \"" ++ t.toList ++ "\") to tuple")
  | operator, a, b =>
    let isSequence (v : Value) : Running Bool := do
      match v with
      | .text _ => return true
      | .tuple _ => return true
      | .bytes _ => return true
      | v => return ((← objectOf? v) matches some (.list _))
    if operator = .add && s = "list" then
      typeError ("can only concatenate list (not \"" ++ t.toList ++ "\") to list")
    else if operator = .multiply && ((← isSequence a) || (← isSequence b)) then
      typeError ("can't multiply sequence by non-int of type '" ++
        (if ← isSequence a then t else s).toList ++ ['\''])
    else
      let sign := if operator = .power && sign = "**" then "** or pow()" else sign
      typeError ("unsupported operand type(s) for " ++ sign.toList ++ ": '" ++ s.toList ++ "' and '" ++
        t.toList ++ ['\''])

/-- Two values by an operator. -/
def operate (w : Ways) (operator : Operator) (sign : String) (a b : Value) : Running Value := do
  let isMade (v : Value) : Running Bool := do
    match v with
    | .object n => return ((← objectAt? n) matches some (.made ..))
    | _ => return false
  let madeA ← isMade a
  let madeB ← isMade b
  if madeA || madeB then
    let first ← if madeA then answerOf? w a ("__" ++ operator.method ++ "__") [b] else pure none
    match first with
    | some v => return v
    | none =>
      let second ← if madeB then answerOf? w b ("__r" ++ operator.method ++ "__") [a] else pure none
      match second with
      | some v => return v
      | none =>
        let x ← coreOf a
        let y ← coreOf b
        let isFormat := operator == .modulo && (a matches .text _)
        if isSame x a && isSame y b && !isFormat then refusedOperation operator sign a b
        else
          match ← plainOperation w operator x y with
          | some v => return v
          | none => refusedOperation operator sign a b
  else
    match ← plainOperation w operator a b with
    | some v => return v
    | none => refusedOperation operator sign a b

/-- A value is changed by an operator; some values change where they are. -/
def change (w : Ways) (operator : Operator) (a b : Value) : Running Value := do
  match ← answerOf? w a ("__i" ++ operator.method ++ "__") [b] with
  | some v => return v
  | none =>
    match a, operator with
    | .object n, .add =>
      match ← objectAt? n with
      | some (.list _) =>
        let items ← itemsOf w b
        modify fun m => { m with store := m.store.modify n fun
          | .list all => .list (items.foldl Array.push all)
          | o => o }
        return a
      | some (.deque all most) =>
        setObject n (.deque ((← itemsOf w b).foldl Array.push all) most)
        return a
      | _ => operate w operator "+=" a b
    | .object n, operator =>
      match ← objectAt? n, ← operate w operator (operator.sign ++ "=") a b with
      | some (.set _ false), .object k =>
        match ← objectAt? k with
        | some (.set t _) => setObject n (.set t false); return a
        | _ => return .object k
      | some (.dict ..), .object k =>
        match ← objectAt? k with
        | some x => setObject n x; return a
        | none => return .object k
      | some (.list _), .object k =>
        match ← objectAt? k with
        | some x => setObject n x; return a
        | none => return .object k
      | _, v => return v
    | a, operator => operate w operator (operator.sign ++ "=") a b

/-- The opposite of a value. -/
def negative (w : Ways) (v : Value) : Running Value := do
  match ← coreOf v with
  | .int n => return .int (-n)
  | .bool b => return .int (if b then -1 else 0)
  | .float x => return .float (-x)
  | _ =>
    match ← ask? w v "__neg__" [] with
    | some r => return r
    | none => typeError ("bad operand type for unary -: '" ++ (← typeName v).toList ++ ['\''])

/-- A value with a plus in front. -/
def positive (w : Ways) (v : Value) : Running Value := do
  match ← coreOf v with
  | .int n => return .int n
  | .bool b => return .int (if b then 1 else 0)
  | .float x => return .float x
  | _ =>
    match ← ask? w v "__pos__" [] with
    | some r => return r
    | none => typeError ("bad operand type for unary +: '" ++ (← typeName v).toList ++ ['\''])

/-- The bits that a value does not have. -/
def inverted (w : Ways) (v : Value) : Running Value := do
  match ← coreOf v with
  | .int n => return .int (bitNot n)
  | .bool b => return .int (if b then -2 else -1)
  | _ =>
    match ← ask? w v "__invert__" [] with
    | some r => return r
    | none => typeError ("bad operand type for unary ~: '" ++ (← typeName v).toList ++ ['\''])

/-- The size of a value without its sign. -/
def absolute (w : Ways) (v : Value) : Running Value := do
  match ← coreOf v with
  | .int n => return .int n.natAbs
  | .bool b => return .int (if b then 1 else 0)
  | .float x => return .float x.abs
  | _ =>
    match ← ask? w v "__abs__" [] with
    | some r => return r
    | none => typeError ("bad operand type for abs(): '" ++ (← typeName v).toList ++ ['\''])

/-- A comparison of two values. -/
def compared (w : Ways) (c : Comparison) (a b : Value) : Running Value := do
  match c with
  | .isSame => return .bool (isSame a b)
  | .isNotSame => return .bool (!isSame a b)
  | .within => return .bool (← isWithin w a b)
  | .notWithin => return .bool (!(← isWithin w a b))
  | .equal =>
    match a with
    | .object _ =>
      match ← ask? w a "__eq__" [b] with
      | some .notImplemented => return .bool (← areEqual w a b)
      | some v => return v
      | none => return .bool (← areEqual w a b)
    | a => return .bool (← areEqual w a b)
  | .different =>
    match ← ask? w a "__ne__" [b] with
    | some .notImplemented => return .bool (!(← areEqual w a b))
    | some v => return v
    | none => return .bool (!(← areEqual w a b))
  | c =>
    match ← ask? w a c.method [b] with
    | some .notImplemented => return .bool (← isOrdered w c compareDepth a b)
    | some v => return v
    | none => return .bool (← isOrdered w c compareDepth a b)

end Equate.Shell.Dynamic
