import Equate.Shell.Dynamic.Collection

/-!
# Documents that are exchanged

A text becomes a document with the place of the first mistake, if there is one; numbers
keep their digits until it is said what becomes of them. Values are written with the
separators and the indentation that are wanted.
-/
namespace Equate.Shell.Dynamic

/-- A document. -/
inductive Document where
  | null
  | bool (b : Bool)
  | int (t : Text)
  | float (t : Text)
  | constant (t : Text)
  | text (t : Text)
  | list (items : List Document)
  | object (members : List (Text × Document))

namespace Document

/-- What is left of a text, with its position. -/
structure Rest where
  position : Nat
  text : Text

/-- So much further on. -/
def Rest.drop (r : Rest) (n : Nat) : Rest := ⟨r.position + n, r.text.drop n⟩

/-- Behind the blanks. -/
def Rest.skip (r : Rest) : Rest :=
  r.drop (r.text.takeWhile fun c => c == ' ' || c == '\t' || c == '\n' || c == '\r').length

/-- What is wrong, and where. -/
abbrev Reading := Except (Text × Nat)

/-- A text behind its quotation mark, up to the one that ends it. -/
def readText (start : Nat) : Nat → Text → Rest → Reading (Text × Rest)
  | 0, _, _ => .error ("Unterminated string starting at", start)
  | fuel + 1, read, r =>
    match r.text with
    | [] => .error ("Unterminated string starting at", start)
    | '"' :: _ => .ok (read.reverse, r.drop 1)
    | ['\\'] => .error ("Unterminated string starting at", start)
    | '\\' :: 'u' :: rest =>
      let digits := rest.take 4
      if digits.length = 4 ∧ digits.all fun c => (Json.hexValue? c).isSome then
        let value (t : Text) : Nat := t.foldl (fun n c => n * 16 + (Json.hexValue? c).getD 0) 0
        let n := value digits
        let second := rest.drop 4
        match second with
        | '\\' :: 'u' :: more =>
          let m := value (more.take 4)
          if Json.isLeading n ∧ (more.take 4).length = 4 ∧ Json.isTrailing m then
            readText start fuel (Json.pairChar n m :: read) (r.drop 12)
          else readText start fuel (one n :: read) (r.drop 6)
        | _ => readText start fuel (one n :: read) (r.drop 6)
      else .error ("Invalid \\uXXXX escape", r.position + 1)
    | '\\' :: c :: _ =>
      match Json.escaped? c with
      | some d => readText start fuel (d :: read) (r.drop 2)
      | none => .error ("Invalid \\escape", r.position)
    | c :: _ =>
      if c < ' ' then .error ("Invalid control character at", r.position)
      else readText start fuel (c :: read) (r.drop 1)
where
  /-- A character by its number. -/
  one (n : Nat) : Char := if n.isValidChar then Char.ofNat n else '\uFFFD'

/-- A number at the front of a text. -/
def numeral? (t : Text) : Option (Document × Nat) :=
  let (sign, body) := match t with
    | '-' :: rest => (['-'], rest)
    | rest => ([], rest)
  let whole := match body with
    | '0' :: _ => ['0']
    | body => body.takeWhile Char.isDigit
  if whole = [] then none
  else
    let rest := body.drop whole.length
    let fraction := match rest with
      | '.' :: r => match r.takeWhile Char.isDigit with
        | [] => []
        | ds => '.' :: ds
      | _ => []
    let rest := rest.drop fraction.length
    let exponent := match rest with
      | c :: r =>
        let sign := r.takeWhile fun c => c == '+' || c == '-'
        let ds := (r.drop sign.length).takeWhile Char.isDigit
        if (c = 'e' ∨ c = 'E') ∧ sign.length ≤ 1 ∧ ds ≠ [] then c :: sign ++ ds else []
      | [] => []
    let all := sign ++ whole ++ fraction ++ exponent
    some (if fraction = [] ∧ exponent = [] then .int all else .float all, all.length)

/-- A document that is a word. -/
def word? (t : Text) : Option (Document × Nat) :=
  let all : List (String × Document) := [("null", .null), ("true", .bool true), ("false", .bool false),
    ("NaN", .constant "NaN"), ("Infinity", .constant "Infinity"), ("-Infinity", .constant "-Infinity")]
  (all.find? fun (w, _) => w.toList.isPrefixOf t).map fun (w, d) => (d, w.length)

mutual

/-- A document at the front of a text, so deep at most. -/
def read : Nat → Rest → Reading (Document × Rest)
  | 0, r => .error ("Expecting value", r.position)
  | fuel + 1, r =>
    match r.text with
    | '"' :: _ => do
      let (t, rest) ← readText r.position (r.text.length + 1) [] (r.drop 1)
      return (.text t, rest)
    | '[' :: _ =>
      let inner := (r.drop 1).skip
      if inner.text.head? = some ']' then .ok (.list [], inner.drop 1)
      else do
        let (items, rest) ← readItems fuel inner
        return (.list items, rest)
    | '\x7b' :: _ =>
      let inner := (r.drop 1).skip
      if inner.text.head? = some '\x7d' then .ok (.object [], inner.drop 1)
      else do
        let (members, rest) ← readMembers fuel inner
        return (.object members, rest)
    | t =>
      match (word? t).or (numeral? t) with
      | some (d, n) => .ok (d, r.drop n)
      | none => .error ("Expecting value", r.position)

/-- The items of a list up to the bracket that closes it. -/
def readItems : Nat → Rest → Reading (List Document × Rest)
  | 0, r => .error ("Expecting value", r.position)
  | fuel + 1, r => do
    let (d, rest) ← read fuel r
    let rest := rest.skip
    match rest.text with
    | ']' :: _ => return ([d], rest.drop 1)
    | ',' :: _ =>
      let (more, behind) ← readItems fuel (rest.drop 1).skip
      return (d :: more, behind)
    | _ => .error ("Expecting ',' delimiter", rest.position)

/-- The members of an object up to the brace that closes it. -/
def readMembers : Nat → Rest → Reading (List (Text × Document) × Rest)
  | 0, r => .error ("Expecting value", r.position)
  | fuel + 1, r => do
    match r.text with
    | '"' :: _ =>
      let (key, rest) ← readText r.position (r.text.length + 1) [] (r.drop 1)
      let rest := rest.skip
      match rest.text with
      | ':' :: _ =>
        let (d, rest) ← read fuel (rest.drop 1).skip
        let rest := rest.skip
        match rest.text with
        | '\x7d' :: _ => return ([(key, d)], rest.drop 1)
        | ',' :: _ =>
          let (more, behind) ← readMembers fuel (rest.drop 1).skip
          return ((key, d) :: more, behind)
        | _ => .error ("Expecting ',' delimiter", rest.position)
      | _ => .error ("Expecting ':' delimiter", rest.position)
    | _ => .error ("Expecting property name enclosed in double quotes", r.position)

end

/-- The document that a text is. -/
def ofText (t : Text) : Reading Document := do
  if t.head? = some '\ufeff' then Except.error ("Unexpected UTF-8 BOM (decode using utf-8-sig)", 0)
  let start := (Rest.mk 0 t).skip
  let (d, rest) ← read (t.length + 2) start
  let rest := rest.skip
  if rest.text = [] then return d else .error ("Extra data", rest.position)

/-- What becomes of the parts of a document, where that is said. -/
structure Hooks where
  object : Option Value
  pairs : Option Value
  float : Option Value
  int : Option Value
  constant : Option Value

/-- A document as a value. -/
def toValue (w : Ways) (h : Hooks) : Nat → Document → Running Value
  | 0, _ => return .none
  | fuel + 1, d => do
    match d with
    | .null => return .none
    | .bool b => return .bool b
    | .int t =>
      match h.int with
      | some f => w.call f [.text t] []
      | none => return .int ((Numeral.readInt? 10 t).getD 0)
    | .float t =>
      match h.float with
      | some f => w.call f [.text t] []
      | none => return .float ((Number.readNumber? t).getD 0)
    | .constant t =>
      match h.constant with
      | some f => w.call f [.text t] []
      | none => return .float (if t = "NaN" then Numeral.nan else if t.head? = some '-' then -Numeral.infinity
          else Numeral.infinity)
    | .text t => return .text t
    | .list items => makeList (← items.mapM (toValue w h fuel))
    | .object members =>
      let all ← members.mapM fun (k, d) => do return (k, ← toValue w h fuel d)
      match h.pairs with
      | some f => w.call f [← makeList (all.map fun (k, v) => .tuple [.text k, v])] []
      | none =>
        let made ← makeDict (all.foldl (fun (t : Table) (k, v) => t.put ('t' :: k) (.text k) v) .empty)
        match h.object with
        | some f => w.call f [made] []
        | none => return made

end Document

/-- A document of a text, as a value. -/
def readDocument (w : Ways) (t : Text) (g : Given) : Running Value := do
  match Document.ofText t with
  | .ok d =>
    let hook (name : String) : Option Value := (g.named.lookup name).filter fun v => !(v matches .none)
    d.toValue w ⟨hook "object_hook", hook "object_pairs_hook", hook "parse_float", hook "parse_int",
      hook "parse_constant"⟩ (t.length + 2)
  | .error (words, position) =>
    let before := t.take position
    let line := before.count '\n' + 1
    let column := (before.reverse.takeWhile (· ≠ '\n')).length + 1
    let number (n : Nat) : Value := .int n
    raise (← exception "json.decoder.JSONDecodeError"
      [.text (words ++ ": line " ++ Text.decimal line ++ " column " ++ Text.decimal column ++ " (char " ++
        Text.decimal position ++ [')'])]
      [("msg", .text words), ("doc", .text t), ("pos", number position), ("lineno", number line),
        ("colno", number column)])

/-! ## Writing -/

/-- How documents are written. -/
structure Layout where
  ascii : Bool
  indent : Option Text
  item : Text
  member : Text
  sorted : Bool
  skipsKeys : Bool
  allowsNaN : Bool
  other : Option Value

/-- A character in a text. -/
def exchangedChar (ascii : Bool) (c : Char) : Text :=
  match c with
  | '"' => ['\\', '"']
  | '\\' => ['\\', '\\']
  | '\n' => ['\\', 'n']
  | '\r' => ['\\', 'r']
  | '\t' => ['\\', 't']
  | '\x0c' => ['\\', 'f']
  | '\x08' => ['\\', 'b']
  | c =>
    let n := c.toNat
    let unit (n : Nat) : Text := '\\' :: 'u' :: hexDigits 4 n
    if n < 32 then unit n
    else if ascii ∧ 127 ≤ n then
      if n < 65536 then unit n
      else unit (0xd800 + (n - 65536) / 1024) ++ unit (0xdc00 + (n - 65536) % 1024)
    else [c]

/-- A text in quotation marks. -/
def exchangedText (ascii : Bool) (t : Text) : Text := '"' :: t.flatMap (exchangedChar ascii) ++ ['"']

/-- A number as it is written. -/
def exchangedFloat (l : Layout) (x : Float) : Running Text := do
  if Numeral.isFinite x then return Numeral.floatText x
  else if !l.allowsNaN then
    valueError "Out of range float values are not JSON compliant"
  else if Numeral.isNaN x then return "NaN"
  else return if Number.isNegative x then "-Infinity" else "Infinity"

/-- A value as a document. -/
def exchanged (w : Ways) (l : Layout) : Nat → (depth : Nat) → Value → Running Text
  | 0, _, _ => valueError "Circular reference detected"
  | fuel + 1, depth, v => do
    let newline (depth : Nat) : Text := match l.indent with
      | some t => '\n' :: (List.replicate depth t).flatten
      | none => []
    let wrapped (start finish : Char) (parts : List Text) : Text :=
      if parts.isEmpty then [start, finish]
      else start :: newline (depth + 1) ++ Text.joinWith (l.item ++ newline (depth + 1)) parts ++
        newline depth ++ [finish]
    let unknown (v : Value) : Running Text := do
      match l.other with
      | some f => exchanged w l fuel depth (← w.call f [v] [])
      | none => typeError ("Object of type " ++ (← typeName v).toList ++ " is not JSON serializable")
    let listed (items : List Value) : Running Text := do
      return wrapped '[' ']' (← items.mapM (exchanged w l fuel (depth + 1)))
    match v with
    | .none => return "null"
    | .bool b => return if b then "true" else "false"
    | .int n => return integerText n
    | .float x => exchangedFloat l x
    | .text t => return exchangedText l.ascii t
    | .tuple items => listed items
    | v =>
      match ← objectOf? v with
      | some (.list items) => listed items.toList
      | some (.dict t _ _) =>
        let entries ← if l.sorted then do
            let keys ← sorted w t.keys none false
            keys.mapM fun k => do return (k, (t.value? (← keyOf w k)).getD .none)
          else pure t.toList
        let parts ← entries.filterMapM fun (k, x) => do
          let key : Option Text ← match ← coreOf k with
            | .text t => pure (some t)
            | .none => pure (some "null")
            | .bool b => pure (some (if b then "true" else "false"))
            | .int n => pure (some (integerText n))
            | .float x => do pure (some (← exchangedFloat l x))
            | _ => pure none
          match key with
          | some key => return some (exchangedText l.ascii key ++ l.member ++ (← exchanged w l fuel (depth + 1) x))
          | none =>
            if l.skipsKeys then return none
            else typeError ("keys must be str, int, float, bool or None, not " ++ (← typeName k).toList)
        return wrapped '\x7b' '\x7d' parts
      | some (.made type fields core) =>
        match core with
        | some core => exchanged w l fuel depth core
        | none =>
          if (← isBelow type (.type "Enum")) && ((← isBelow type (.type "int")) || (← isBelow type (.type "str"))) then
            exchanged w l fuel depth ((fields.lookup "_value_").getD .none)
          else unknown v
      | _ => unknown v

/-- How the arguments of a call want documents to be written. -/
def layoutOf (w : Ways) (g : Given) : Running Layout := do
  let flag (name : String) (usual : Bool) : Running Bool := do
    match g.named.lookup name with
    | some v => isTrue w v
    | none => return usual
  let indent : Option Text ← match g.named.lookup "indent" with
    | some (.text t) => pure (some t)
    | some .none => pure none
    | some v => do pure (some (List.replicate (← wholeNumber w v).toNat ' '))
    | none => pure none
  let (item, member) : Text × Text ← match (g.named.lookup "separators").filter fun v => !(v matches .none) with
    | some v => do
      match ← itemsOf w v with
      | [.text a, .text b] => pure (a, b)
      | _ => valueError "not enough values to unpack (expected 2)"
    | none => pure (if indent.isSome then [','] else [',', ' '], [':', ' '])
  return {
    ascii := ← flag "ensure_ascii" true
    indent, item, member
    sorted := ← flag "sort_keys" false
    skipsKeys := ← flag "skipkeys" false
    allowsNaN := ← flag "allow_nan" true
    other := (g.named.lookup "default").filter fun v => !(v matches .none) }

/-- A value as a document. -/
def writtenDocument (w : Ways) (v : Value) (g : Given) : Running Text := do
  exchanged w (← layoutOf w g) 900 0 v

end Equate.Shell.Dynamic
