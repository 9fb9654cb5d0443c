import Equate.Shell.Dynamic.Machine
import Equate.Shell.Dynamic.Numeral
import Equate.Shell.Dynamic.Value

/-!
# How values are shown

A value is shown as it would be written, or, if it is to be read by people, as a text. What
a class says about its instances comes first.
-/
namespace Equate.Shell.Dynamic

/-!
## Hashes

Numbers that are equal have one hash, whatever their types are. A set keeps its members in a
table by their hashes, and shows them in the order in which they stand there.
-/

/-- Hashes of numbers are below this one. -/
def hashModulus : Nat := 2305843009213693951

/-- The hash of a whole number. -/
def intHash (n : Int) : Int :=
  let h : Int := n.natAbs % hashModulus
  let h := if n < 0 then -h else h
  if h = -1 then -2 else h

/-- The hash of a number of binary64. -/
def floatHash (x : Float) : Int :=
  if Numeral.isNaN x then 0
  else if Numeral.isInfinite x then (if x < 0 then -314159 else 314159)
  else
    let (m, e) := x.frExp
    let n := (m.abs * 9007199254740992.0).toUInt64.toNat
    let power := ((e - 53).emod 61).toNat
    let h : Int := (n * Nat.pow 2 power % hashModulus : Nat)
    let h := if x < 0 then -h else h
    if h = -1 then -2 else h

/-- A hash as a word. -/
def hashWord (h : Int) : UInt64 := UInt64.ofNat (h.emod 18446744073709551616).toNat

/-- The hash of a tuple of values with these hashes. -/
def tupleHash (hashes : List Int) : Int :=
  let prime : UInt64 := 2870177450012600261
  let acc := hashes.foldl (fun (acc : UInt64) h =>
    let acc : UInt64 := acc + hashWord h * 14029467366897019727
    let turned : UInt64 := (acc <<< 31) ||| (acc >>> 33)
    turned * 11400714785074694791) prime
  let acc : UInt64 := acc + (UInt64.ofNat hashes.length ^^^ (prime ^^^ 3527539))
  if acc.toNat = 18446744073709551615 then 1546275796
  else if acc.toNat < 9223372036854775808 then acc.toNat else (acc.toNat : Int) - 18446744073709551616

mutual

/-- The hash of a value that has always the same one. -/
def hash? : Value → Option Int
  | .int n => some (intHash n)
  | .bool b => some (if b then 1 else 0)
  | .float x => some (floatHash x)
  | .tuple items => (hashes? items).map tupleHash
  | _ => none

/-- The hashes of values. -/
def hashes? : List Value → Option (List Int)
  | [] => some []
  | v :: rest =>
    match hash? v, hashes? rest with
    | some h, some hs => some (h :: hs)
    | _, _ => none

end

/-! ## The table of a set -/

/-- A table of members by their hashes. -/
abbrev Slots := Array (Option (UInt64 × Value))

/-- The first free slot of so many in a row. -/
def freeSlot? (slots : Slots) (i : Nat) : Nat → Option Nat
  | 0 => none
  | n + 1 => if (slots[i]?.join).isNone then some i else freeSlot? slots (i + 1) n

/-- A member is put where its hash says, or where the next free slot is. -/
def putInSlot (h : UInt64) (v : Value) : Nat → (i : Nat) → (rest : UInt64) → Slots → Slots
  | 0, _, _, slots => slots
  | fuel + 1, i, rest, slots =>
    let mask := slots.size - 1
    match freeSlot? slots i (if i + 9 ≤ mask then 10 else 1) with
    | some k => slots.setIfInBounds k (some (h, v))
    | none =>
      let rest : UInt64 := rest >>> 5
      let next : UInt64 := UInt64.ofNat i * 5 + 1 + rest
      putInSlot h v fuel (next.toNat % slots.size) rest slots

/-- A member more. -/
def addToSlots (slots : Slots) (h : UInt64) (v : Value) : Slots :=
  putInSlot h v (slots.size + 20) (h.toNat % slots.size) h slots

/-- The least size of a table that is a power of two and greater than a number. -/
def tableSize (least : Nat) : Nat → Nat → Nat
  | 0, n => n
  | fuel + 1, n => if n ≤ least then tableSize least fuel (n * 2) else n

/-- The members of a set in the order of their table. -/
def inTableOrder (members : List Value) : List Value :=
  match hashes? members with
  | none => members
  | some hs =>
    let (slots, _) := (hs.zip members).foldl (fun (s : Slots × Nat) (h, v) =>
      let slots := addToSlots s.1 (hashWord h) v
      let used := s.2 + 1
      if used * 5 < (slots.size - 1) * 3 then (slots, used)
      else
        let size := tableSize (if 50000 < used then used * 2 else used * 4) 40 8
        let larger := slots.foldl (fun (larger : Slots) m =>
          match m with
          | some (h, v) => addToSlots larger h v
          | none => larger) (Array.replicate size none)
        (larger, used)) (Array.replicate 8 none, 0)
    slots.toList.filterMap fun m => m.map Prod.snd

/-- The members of a set. -/
def Table.members (t : Table) : List Value := inTableOrder t.keys

/-! ## What classes say -/

/-- What a class or one above it has under a name. -/
def classAttribute? (type : Value) (name : String) : Running (Option Value) := do
  (← lineage type).findSomeM? fun t => do
    match t with
    | .object _ => return (← kindOf? t).bind fun k => k.fields.lookup name
    | _ => return none

/-- What the classes of scripts say about a value under a name. -/
def special? (v : Value) (name : String) : Running (Option Value) := do
  match v with
  | .object n =>
    match ← objectAt? n with
    | some (.made type _ _) => classAttribute? type name
    | _ => return none
  | _ => return none

/-- What a value answers to a call of one of its methods, if a class has it. -/
def ask? (w : Ways) (v : Value) (name : String) (arguments : List Value) : Running (Option Value) := do
  match ← special? v name with
  | some .none => return none
  | some f => return some (← w.call f (v :: arguments) [])
  | none => return none

/-- The value that an instance has of its own, of a type that scripts find. -/
def coreOf (v : Value) : Running Value := do
  match v with
  | .object n =>
    match ← objectAt? n with
    | some (.made _ _ (some core)) => return core
    | _ => return v
  | _ => return v

/-! ## As written -/

/-- A number in so many hexadecimal digits. -/
def hexDigits (count n : Nat) : Text :=
  let t := Nat.toDigits 16 n
  List.replicate (count - t.length) '0' ++ t

/-- A character that has a look of its own. -/
def isPrintable (c : Char) : Bool :=
  let n := c.toNat
  if n < 127 then ' ' ≤ c
  else 161 ≤ n && n != 173 && !(0x2000 ≤ n && n ≤ 0x200f) && !(0x2028 ≤ n && n ≤ 0x202f) &&
    !(0x205f ≤ n && n ≤ 0x206f) && n != 0x3000 && n != 0xfeff && !(0xe000 ≤ n && n ≤ 0xf8ff) &&
    !(0xfff0 ≤ n && n ≤ 0xfffb) && n != 0xfffe && n != 0xffff

/-- A character between quotation marks. -/
def quotedChar (mark : Char) (bytes : Bool) (ascii : Bool) (c : Char) : Text :=
  if c = mark ∨ c = '\\' then ['\\', c]
  else if c = '\n' then ['\\', 'n']
  else if c = '\r' then ['\\', 'r']
  else if c = '\t' then ['\\', 't']
  else
    let n := c.toNat
    if (bytes || ascii) && 127 ≤ n || !isPrintable c then
      if n < 256 then '\\' :: 'x' :: hexDigits 2 n
      else if n < 65536 then '\\' :: 'u' :: hexDigits 4 n
      else '\\' :: 'U' :: hexDigits 8 n
    else [c]

/-- A text between quotation marks. -/
def quotedText (bytes ascii : Bool) (t : Text) : Text :=
  let mark := if t.contains '\'' && !t.contains '"' then '"' else '\''
  (if bytes then ['b'] else []) ++ mark :: t.flatMap (quotedChar mark bytes ascii) ++ [mark]

/-- Where an object is kept, as it is shown. -/
def addressOf (n : Nat) : Text := "0x7f" ++ hexDigits 10 (0x1000000000 + 64 * n)

/-- The name of a type with its module. -/
def fullTypeName (type : Value) : Running Text := do
  match type with
  | .type name =>
    if ["defaultdict", "OrderedDict", "Counter"].contains name then return "collections." ++ name.toList
    else return name.toList
  | type => return "__main__." ++ (← nameOfType type).toList

/-- Texts with commas between them. -/
def commas (ts : List Text) : Text := Text.joinWith [',', ' '] ts

/-- A value as it is written. -/
def showValue (w : Ways) : Nat → Value → Running Text
  | 0, _ => fail "RecursionError" "maximum recursion depth exceeded while getting the repr of an object"
  | fuel + 1, v => do
    let inner (v : Value) : Running Text := showValue w fuel v
    let entries (t : Table) : Running Text := do
      let shown ← t.toList.mapM fun (k, v) => do return (← inner k) ++ ": " ++ (← inner v)
      return '\x7b' :: commas shown ++ ['\x7d']
    let members (t : Table) : Running Text := do
      return '\x7b' :: commas (← t.members.mapM inner) ++ ['\x7d']
    match v with
    | .none => return "None"
    | .bool b => return if b then "True" else "False"
    | .int n => return integerText n
    | .float x => return Numeral.floatText x
    | .text t => return quotedText false false t
    | .bytes t => return quotedText true false t
    | .ellipsis => return "Ellipsis"
    | .notImplemented => return "NotImplemented"
    | .tuple [v] => return '(' :: (← inner v) ++ [',', ')']
    | .tuple items => return '(' :: commas (← items.mapM inner) ++ [')']
    | .range a b c => return "range(" ++ commas ([a, b] ++ (if c = 1 then [] else [c]) |>.map integerText) ++ [')']
    | .slice a b c => return "slice(" ++ commas [← inner a, ← inner b, ← inner c] ++ [')']
    | .module name => return "<module '" ++ name.toList ++ "' (built-in)>"
    | .type name => return "<class '" ++ (← fullTypeName (.type name)) ++ "'>"
    | .builtin name => return "<built-in function " ++ (shortName name).toList ++ [ '>']
    | .bound name self => return "<built-in method " ++ name.toList ++ " of " ++ (← typeName self).toList ++
        " object at 0x7f0000000000>"
    | .method f self =>
      let name := match ← objectOf? f with
        | some (.function d) => d.name
        | _ => "?"
      return "<bound method " ++ (← typeName self).toList ++ '.' :: name.toList ++ " of " ++ (← inner self) ++ ['>']
    | .above .. => return "<super object>"
    | .view kind self =>
      match ← objectOf? self with
      | some (.dict t _ _) =>
        let shown ← if kind = "keys" then t.keys.mapM inner
          else if kind = "values" then t.values.mapM inner
          else t.toList.mapM fun (k, v) => inner (.tuple [k, v])
        return "dict_" ++ kind.toList ++ "([" ++ commas shown ++ "])"
      | _ => return "dict_" ++ kind.toList ++ "([])"
    | .object n =>
      match ← objectAt? n with
      | none => return "<object>"
      | some x =>
        match x with
        | .list items => return '[' :: commas (← items.toList.mapM inner) ++ [']']
        | .deque items most =>
          return "deque([" ++ commas (← items.toList.mapM inner) ++ [']'] ++
            (match most with
              | some n => ", maxlen=" ++ Text.decimal n
              | none => []) ++ [')']
        | .dict t kind f =>
          let body ← entries t
          match kind with
          | "defaultdict" => return "defaultdict(" ++ (← inner f) ++ ", " ++ body ++ [')']
          | "Counter" =>
            if t.size = 0 then return "Counter()"
            let number (v : Value) : Int := match v with
              | .int n => n
              | _ => 0
            let ordered := t.toList.mergeSort fun a b => number b.2 ≤ number a.2
            let shown ← ordered.mapM fun (k, v) => do return (← inner k) ++ ": " ++ (← inner v)
            return "Counter(\x7b" ++ commas shown ++ "\x7d)"
          | "OrderedDict" =>
            if t.size = 0 then return "OrderedDict()"
            let shown ← t.toList.mapM fun (k, v) => inner (.tuple [k, v])
            return "OrderedDict([" ++ commas shown ++ "])"
          | _ => return body
        | .set t frozen =>
          if t.size = 0 then return if frozen then "frozenset()" else "set()"
          else
            let body ← members t
            return if frozen then "frozenset(" ++ body ++ [')'] else body
        | .function d =>
          let name := if d.name = "<lambda>" then "<lambda>" else d.name
          return "<function " ++ name.toList ++ " at " ++ addressOf n ++ ['>']
        | .kind k => return "<class '__main__." ++ k.name.toList ++ "'>"
        | .made type fields core => showMade w fuel inner n type fields core
        | .iterator s => return "<" ++ s.typeName.toList ++ " object at " ++ addressOf n ++ ['>']
        | .generator name .. => return "<generator object " ++ name.toList ++ " at " ++ addressOf n ++ ['>']
        | .scope _ => return "<module>"
        | .file f => return "<_io.TextIOWrapper name=" ++ quotedText false false f.path ++ " mode='" ++
            f.mode.toList ++ "' encoding='UTF-8'>"
        | .pattern p => return "re.compile(" ++ quotedText false false p.source ++ [')']
        | .found _ text f =>
          return "<re.Match object; span=(" ++ Text.decimal f.first ++ ", " ++ Text.decimal f.last ++
            "), match=" ++ quotedText false false (text.extract f.first f.last).toList ++ ['>']
        | _ => return "<" ++ (← typeName v).toList ++ " object at " ++ addressOf n ++ ['>']
where
  /-- An instance as it is written. -/
  showMade (w : Ways) (fuel : Nat) (inner : Value → Running Text) (n : Nat) (type : Value)
      (fields : List (String × Value)) (core : Option Value) : Running Text := do
    let v := Value.object n
    match ← classAttribute? type "__repr__" with
    | some f =>
      match ← w.call f [v] [] with
      | .text t => return t
      | other => typeError ("__repr__ returned non-string (type " ++ (← typeName other).toList ++ [')'])
    | none =>
      if ← isBelow type (.type "BaseException") then
        let name := shortName (← nameOfType type)
        return name.toList ++ '(' :: commas (← (← argumentsOf v).mapM inner) ++ [')']
      else if ← isBelow type (.type "Enum") then
        let value ← inner ((fields.lookup "_value_").getD .none)
        let name : Text := match fields.lookup "_name_" with
          | some (.text t) => t
          | _ => []
        return '<' :: (← nameOfType type).toList ++ '.' :: name ++ ": " ++ value ++ ['>']
      else if type matches .type "pathlib.PosixPath" then
        match core with
        | some path => return "PosixPath(" ++ (← inner path) ++ [')']
        | none => return "PosixPath('.')"
      else if type matches .type "types.SimpleNamespace" then
        let shown ← fields.mapM fun (name, v) => do return name.toList ++ '=' :: (← inner v)
        return "namespace(" ++ commas shown ++ [')']
      else
        match core with
        | some core =>
          match ← classAttribute? type "_fields", core with
          | some (.tuple names), .tuple items =>
            let shown ← (names.zip items).mapM fun (k, v) => do
              match k with
              | .text k => return k ++ '=' :: (← showValue w fuel v)
              | _ => inner v
            return (← nameOfType type).toList ++ '(' :: commas shown ++ [')']
          | _, core => inner core
        | none => return "<" ++ (← fullTypeName type) ++ " object at " ++ addressOf n ++ ['>']

/-- How deep values are shown. -/
def showDepth : Nat := 950

/-- A value as it is written. -/
def reprOf (w : Ways) (v : Value) : Running Text := showValue w showDepth v

/-- What an exception says. -/
def exceptionText (w : Ways) (type : Value) (v : Value) (fields : List (String × Value)) : Running Text := do
  let arguments ← argumentsOf v
  let text (v : Value) : Running Text := do
    match v with
    | .text t => return t
    | v => reprOf w v
  match fields.lookup "strerror", fields.lookup "errno" with
  | some words, some number =>
    let front := '[' :: "Errno ".toList ++ (← reprOf w number) ++ [']', ' '] ++ (← text words)
    match (fields.lookup "filename").getD .none with
    | .none => return front
    | path => return front ++ ':' :: ' ' :: (← reprOf w path)
  | _, _ =>
    match type, arguments with
    | _, [] => return []
    | type, [v] => if ← isBelow type (.type "KeyError") then reprOf w v else
        match v with
        | .text t => return t
        | .object _ => match ← ask? w v "__str__" [] with
          | some (.text t) => return t
          | _ => reprOf w v
        | v => reprOf w v
    | _, all => reprOf w (.tuple all)

/-- A value for people to read. -/
def strOf (w : Ways) (v : Value) : Running Text := do
  match v with
  | .text t => return t
  | .object n =>
    match ← objectAt? n with
    | some (.made type fields core) =>
      match ← classAttribute? type "__str__" with
      | some f =>
        match ← w.call f [v] [] with
        | .text t => return t
        | other => typeError ("__str__ returned non-string (type " ++ (← typeName other).toList ++ [')'])
      | none =>
        if ← isBelow type (.type "BaseException") then exceptionText w type v fields
        else if ← isBelow type (.type "Enum") then
          let name : Text := match fields.lookup "_name_" with
            | some (.text t) => t
            | _ => []
          let plain ← ["IntEnum", "IntFlag"].anyM fun t => isBelow type (.type t)
          if plain then reprOf w ((fields.lookup "_value_").getD .none)
          else if ← isBelow type (.type "StrEnum") then
            match fields.lookup "_value_" with
            | some (.text t) => return t
            | _ => return name
          else return (← nameOfType type).toList ++ '.' :: name
        else if type matches .type "pathlib.PosixPath" then
          match core with
          | some (.text t) => return t
          | _ => reprOf w v
        else
          match core, ← classAttribute? type "__repr__" with
          | some (.text t), none => return t
          | _, _ => reprOf w v
    | _ => reprOf w v
  | v => reprOf w v

/-! ## In formats -/

/-- A number as one of binary64. -/
def floatOf? (v : Value) : Option Float :=
  match v with
  | .float x => some x
  | .int n => some ((Numeral.ofInt? n).getD (Number.withSign (n < 0) Numeral.infinity))
  | .bool b => some (if b then 1 else 0)
  | _ => none

/-- A value as a format says. -/
def formatted (w : Ways) (v : Value) (format : Text) : Running Text := do
  match ← ask? w v "__format__" [.text format] with
  | some (.text t) => return t
  | _ =>
    if format = [] then strOf w v
    else
      let name ← typeName v
      let unknown {α : Type} (c : Char) : Running α :=
        valueError ("Unknown format code '" ++ c :: "' for object of type '".toList ++ name.toList ++ [ '\''])
      match Numeral.Format.read? format with
      | none => valueError ("Invalid format specifier '" ++ format ++ "' for object of type '" ++ name.toList ++
          ['\''])
      | some f =>
        let isFloat (c : Char) : Bool := ['e', 'E', 'f', 'F', 'g', 'G', '%'].contains c
        match ← coreOf v with
        | .bool b => match f.type with
          | none => return f.text (if b then "True" else "False")
          | some _ => number f (.int (if b then 1 else 0)) unknown isFloat
        | .int n => number f (.int n) unknown isFloat
        | .float x => number f (.float x) unknown isFloat
        | .text t => match f.type with
          | none => return f.text t
          | some 's' => return f.text t
          | some c => unknown c
        | _ =>
          match v with
          | .object _ =>
            if ← isBelow (← typeOf v) (.type "Enum") then return f.text (← strOf w v)
            else typeError ("unsupported format string passed to " ++ name.toList ++ ".__format__")
          | _ => typeError ("unsupported format string passed to " ++ name.toList ++ ".__format__")
where
  /-- A number as a format says. -/
  number (f : Numeral.Format) (v : Value) (unknown : {α : Type} → Char → Running α)
      (isFloat : Char → Bool) : Running Text := do
    match v, f.type with
    | .int n, none => match f.precision with
      | none => return f.int n
      | some _ => valueError "Precision not allowed in integer format specifier"
    | .int n, some c =>
      if isFloat c then return f.float ((floatOf? (.int n)).getD 0)
      else if ['d', 'n', 'x', 'X', 'o', 'b', 'c'].contains c then return f.int n
      else unknown c
    | .float x, none => return f.float x
    | .float x, some c => if isFloat c || c == 'n' then return f.float x else unknown c
    | _, _ => return []

/-- The argument of a directive as a whole number. -/
def percentInt (v : Value) (c : Char) : Running Int := do
  match v with
  | .int n => return n
  | .bool b => return if b then 1 else 0
  | .float x =>
    if c = 'd' ∨ c = 'i' ∨ c = 'u' then
      if Numeral.isFinite x then return Numeral.toInt x
      else if Numeral.isNaN x then valueError "cannot convert float NaN to integer"
      else fail "OverflowError" "cannot convert float infinity to integer"
    else typeError ('%' :: c :: " format: an integer is required, not float".toList)
  | v => typeError ('%' :: c :: " format: ".toList ++ (if c = 'd' ∨ c = 'i' ∨ c = 'u' then "a real number" else "an integer") ++
      " is required, not " ++ (← typeName v).toList)

/-- A text with directives for values. -/
def percent (w : Ways) (mapping : String → Running Value) : Nat → (format : Text) → List Value → Bool →
    Running Text
  | 0, _, _, _ => return []
  | fuel + 1, format, values, named => do
    match format with
    | [] =>
      if values.isEmpty || named then return []
      else typeError "not all arguments converted during string formatting"
    | '%' :: '%' :: rest => return '%' :: (← percent w mapping fuel rest values named)
    | '%' :: rest =>
      let (key, rest) : Option Text × Text := match rest with
        | '(' :: more =>
          match Text.splitAt? ')' more with
          | some (key, rest) => (some key, rest)
          | none => (none, rest)
        | rest => (none, rest)
      let flags := rest.takeWhile fun c => ['#', '-', '+', ' ', '0'].contains c
      let rest := rest.drop flags.length
      let take (values : List Value) : Running (Value × List Value) := do
        match values with
        | v :: more => return (v, more)
        | [] => typeError "not enough arguments for format string"
      let count (rest : Text) (values : List Value) : Running (Option Int × Text × List Value) := do
        match rest with
        | '*' :: more =>
          let (v, values) ← take values
          return (some (← percentInt v 'd'), more, values)
        | rest =>
          let digits := rest.takeWhile Char.isDigit
          return (if digits = [] then none else some (Text.digitsValue digits), rest.drop digits.length, values)
      let (width, rest, values) ← count rest values
      let (precision, rest, values) ← match rest with
        | '.' :: more => do
          let (p, rest, values) ← count more values
          pure (some (p.getD 0).toNat, rest, values)
        | rest => pure (none, rest, values)
      let rest := match rest with
        | c :: more => if c = 'l' ∨ c = 'h' ∨ c = 'L' then more else rest
        | [] => []
      let shape : Shape :=
        ⟨if width.any (· < 0) then '-' :: flags else flags, (width.getD 0).natAbs, precision⟩
      match rest with
      | [] => valueError "incomplete format"
      | c :: rest =>
        let (v, values) ← match key with
          | some key => do pure (← mapping (String.ofList key), values)
          | none => take values
        let cut (t : Text) : Text := shape.pad (t.take (precision.getD t.length))
        let shown ← match c with
          | 's' => do pure (cut (← strOf w v))
          | 'r' => do pure (cut (← reprOf w v))
          | 'a' => do pure (cut (← reprOf w v))
          | 'c' => match v with
            | .int n => pure (shape.pad [Char.ofNat n.toNat])
            | .text [c] => pure (shape.pad [c])
            | _ => typeError "%c requires int or char"
          | c =>
            if c = 'd' ∨ c = 'i' ∨ c = 'u' then pure (shape.integer (← percentInt v c))
            else if c = 'x' ∨ c = 'X' ∨ c = 'o' then do
              let n ← percentInt v c
              let mark : Text := if shape.has '#' then ['0', c] else []
              let digits := Nat.toDigits (if c = 'o' then 8 else 16) n.natAbs
              let digits := if c = 'X' then digits.map Char.toUpper else digits
              let digits := List.replicate (precision.getD 0 - digits.length) '0' ++ digits
              pure (shape.padNumber precision.isNone (shape.sign (n < 0) ++ mark) digits)
            else if ['e', 'E', 'f', 'F', 'g', 'G'].contains c then
              match floatOf? (← coreOf v) with
              | some x => pure (shape.float c x)
              | none => typeError ("must be real number, not " ++ (← typeName v).toList)
            else valueError ("unsupported format character '" ++ c :: "' (0x".toList ++ Nat.toDigits 16 c.toNat ++
              ") at index " ++ Text.decimal (format.length - rest.length - 1))
        return shown ++ (← percent w mapping fuel rest values (named || key.isSome))
    | c :: rest => return c :: (← percent w mapping fuel rest values named)

end Equate.Shell.Dynamic
