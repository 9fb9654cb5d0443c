import Equate.Json.Printer

/-!
# What a document denotes

The value of a document has its numbers and strings evaluated. An integer that fits 64
bits stays an integer, any other number is a float. A key that an object has twice keeps
its first place and its last value. Values exist only up to a depth of nesting, and only
for documents whose numbers and strings all denote something.
-/
namespace Equate.Json

/-- The value of a document. -/
inductive Value where
  | null
  | bool (value : Bool)
  | integer (value : Int)
  | float (value : Float)
  | string (text : Text)
  | array (items : List Value)
  | object (members : List (Text × Value))

/-- The deepest nesting of containers. -/
def depthLimit : Nat := 127

/-- An integer between the least signed and the greatest unsigned one of 64 bits; the
negative zero is none. -/
def Numeral.toInteger? (n : Numeral) : Option Int :=
  let value := Text.digitsValue n.whole
  if n.fraction ≠ [] ∨ n.exponent.isSome then none
  else if n.negative then
    if value ≠ 0 ∧ value ≤ Nat.pow 2 63 then some (-(value : Int)) else none
  else if value < Nat.pow 2 64 then some value
  else none

/-- The value of a number. -/
def Numeral.value? (n : Numeral) : Option Value :=
  match n.toInteger? with
  | some value => some (.integer value)
  | none => n.toFloat?.map .float

/-- A member put in the place of the one with its key, or else at the end. -/
def putMember (key : Text) (value : Value) : List (Text × Value) → List (Text × Value)
  | [] => [(key, value)]
  | (k, v) :: rest =>
    if k = key then (key, value) :: rest else (k, v) :: putMember key value rest

mutual

/-- The value of a document, at most `depth` containers deep. -/
def evaluate? (depth : Nat) : Json → Option Value
  | .null => some .null
  | .bool b => some (.bool b)
  | .number n => n.value?
  | .string quoted => (unquote? quoted).map .string
  | .array items =>
    match depth with
    | 0 => none
    | depth + 1 => (itemValues? depth items).map .array
  | .object members =>
    match depth with
    | 0 => none
    | depth + 1 => (memberValues? depth [] members).map .object

/-- The values of items. -/
def itemValues? (depth : Nat) : List Json → Option (List Value)
  | [] => some []
  | item :: rest => do
    let value ← evaluate? depth item
    let values ← itemValues? depth rest
    return value :: values

/-- The values of members, put behind those that are already known. -/
def memberValues? (depth : Nat) (known : List (Text × Value)) :
    List (Text × Json) → Option (List (Text × Value))
  | [] => some known
  | (quoted, document) :: rest => do
    let key ← unquote? quoted
    let value ← evaluate? depth document
    memberValues? depth (putMember key value known) rest

end

/-- The number that a value is, if it is one. -/
def Value.toFloat? : Value → Option Float
  | .integer n => some (Number.withSign (n < 0) (Number.nearest n.natAbs 1))
  | .float x => some x
  | _ => none

/-- An integer as written. -/
def ofInteger (n : Int) : Json :=
  .number ⟨decide (n < 0), Text.decimal n.natAbs, [], none⟩

/-- A text as a string. -/
def ofText (t : Text) : Json := .string (quote t)

mutual

/-- The document that a value is written as. -/
def ofValue : Value → Json
  | .null => .null
  | .bool b => .bool b
  | .integer n => ofInteger n
  | .float x => ofFloat x
  | .string t => ofText t
  | .array items => .array (ofValues items)
  | .object members => .object (ofMembers members)

/-- The documents of values. -/
def ofValues : List Value → List Json
  | [] => []
  | value :: rest => ofValue value :: ofValues rest

/-- The members that pairs of key and value are written as. -/
def ofMembers : List (Text × Value) → List (Text × Json)
  | [] => []
  | (key, value) :: rest => (quote key, ofValue value) :: ofMembers rest

end

end Equate.Json
