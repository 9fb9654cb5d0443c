import Equate.Text.Basic

/-!
# JSON documents

A document keeps its numbers and strings as they are written; what they denote is a
question of its own (`Numeral.toFloat?`, `unquote?`). Two documents that denote the
same values can therefore differ, and a member that nobody asks for may hold a number
outside the range of the machine.
-/
namespace Equate.Json

/-- A number as written. No fraction digits means that no point is written; an exponent
is its sign, negative or not, with its digits. -/
structure Numeral where
  negative : Bool
  whole : Text
  fraction : Text
  exponent : Option (Bool × Text)
  deriving DecidableEq, Repr

end Equate.Json

namespace Equate

/-- A document. Strings and keys hold what stands between the quotes. -/
inductive Json where
  | null
  | bool (value : Bool)
  | number (numeral : Json.Numeral)
  | string (quoted : Text)
  | array (items : List Json)
  | object (members : List (Text × Json))

end Equate
