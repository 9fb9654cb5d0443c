import Equate.Json.Parser
import Equate.Json.Value
import Equate.Name.Basic

/-!
# Records, lists and maps in documents

How the data of this library is read from documents and written to them. A record is
an object, in which no field may stand twice, or the array of its fields in their
order. A map is an object in which the last of several members with one key counts.
A tagged record names its kind under `type` and holds its fields under `details`.
-/
namespace Equate.Json

/-- The text of a string. -/
def toText? : Json → Option Text
  | .string quoted => unquote? quoted
  | _ => none

/-- The number of a numeral; nothing else counts as a number. -/
def toFloat? : Json → Option Float
  | .number n => n.toFloat?
  | _ => none

/-- A natural number up to a limit. -/
def toNat? (limit : Nat) : Json → Option Nat
  | .number n => n.toNat? limit
  | _ => none

/-- The items of an array. -/
def toList? {α : Type} (item? : Json → Option α) : Json → Option (List α)
  | .array items => items.mapM item?
  | _ => none

/-- The entries of an object as a map. -/
def toMap? {α : Type} (value? : Json → Option α) : Json → Option (NameMap α)
  | .object members =>
    members.foldlM (fun m (quoted, document) => do
      let name ← unquote? quoted
      let value ← value? document
      return m.insert name value) ∅
  | _ => none

/-- The members of an object that belong to a record. Other members are refused if the
record is closed, and passed over if not. -/
def recordMembers? (names : List Text) (closed : Bool) :
    List (Text × Json) → Option (List (Text × Json))
  | [] => some []
  | (quoted, document) :: rest => do
    let name ← unquote? quoted
    let fields ← recordMembers? names closed rest
    if names.contains name then
      if (fields.lookup name).isSome then none else some ((name, document) :: fields)
    else if closed then none
    else some fields

/-- The fields of a record, by name. An array may leave out the last ones. -/
def fields? (names : List Text) (closed : Bool) : Json → Option (List (Text × Json))
  | .object members => recordMembers? names closed members
  | .array items => if items.length ≤ names.length then some (names.zip items) else none
  | _ => none

/-- A field that must be there. -/
def field? {α : Type} (fields : List (Text × Json)) (name : Text) (read? : Json → Option α) :
    Option α := do
  read? (← fields.lookup name)

/-- A field with a default for when it is left out. -/
def fieldOr? {α : Type} (fields : List (Text × Json)) (name : Text) (default : α)
    (read? : Json → Option α) : Option α :=
  match fields.lookup name with
  | none => some default
  | some document => read? document

/-- A kind as it stands in an object: its name, or an object that has the name as its
only key, with nothing for it. In what was held back, an empty object is nothing too. -/
def kindInObject? (held : Bool) : Json → Option Text
  | .object [(quoted, .null)] => unquote? quoted
  | .object [(quoted, .object [])] => if held then unquote? quoted else none
  | document => toText? document

/-- A kind as it stands in an array: its name or, in what was held back, its number
among all kinds. -/
def kindInArray? (held : Bool) (kinds : List Text) (document : Json) : Option Text :=
  match toText? document with
  | some kind => some kind
  | none => if held then (toNat? kinds.length document).bind (kinds[·]?) else none

/-- A tagged record that has been taken apart: its kind, its details, and whether these
were held back until the kind was known. -/
structure Tagged where
  kind : Text
  details : Json
  held : Bool

/-- A tagged record with one of some kinds, from a document that was held back itself or
not. Details in front of the kind are held back, so they must denote a value. -/
def tagged? (depth : Nat) (held : Bool) (kinds : List Text) : Json → Option Tagged
  | .array [kind, details] => do return ⟨← kindInArray? held kinds kind, details, held⟩
  | .object members => do
    match ← recordMembers? ["type", "details"] false members with
    | [(first, x), (_, y)] =>
      if first = ("type" : Text) then return ⟨← kindInObject? held x, y, held⟩
      else if (evaluate? depth x).isSome then return ⟨← kindInObject? held y, x, true⟩
      else none
    | _ => none
  | _ => none

/-- The fields of the details of a tagged record, which are an object always. -/
def details? (names : List Text) : Json → Option (List (Text × Json))
  | .object members => recordMembers? names false members
  | _ => none

/-- A natural number as a document. -/
def ofNat (n : Nat) : Json := .number (Numeral.ofNat n)

/-- A list as an array. -/
def ofList {α : Type} (item : α → Json) (xs : List α) : Json := .array (xs.map item)

/-- Fields as an object. -/
def ofFields (fields : List (Text × Json)) : Json :=
  .object (fields.map fun (name, document) => (quote name, document))

/-- A map as an object, in the order of the names. -/
def ofMap {α : Type} (value : α → Json) (m : NameMap α) : Json :=
  ofFields (m.toList.map fun (name, x) => (name, value x))

/-- A tagged record. -/
def ofTagged (kind : Text) (details : Json) : Json :=
  ofFields [("type", ofText kind), ("details", details)]

end Equate.Json
