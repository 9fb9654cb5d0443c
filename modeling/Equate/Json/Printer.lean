import Equate.Json.Numeral
import Equate.Json.Quoted

/-!
# Documents as text

The compact form has no blanks at all. The indented form puts each item and member on
a line of its own, two blanks deeper than its container, and leaves empty containers
closed up.
-/
namespace Equate.Json

/-- A string with the quotes around it. -/
def inQuotes (quoted : Text) : Text := '"' :: quoted ++ ['"']

/-- The text of a truth value. -/
def boolText (b : Bool) : Text := if b then "true" else "false"

mutual

/-- The form without blanks. -/
def compact : Json → Text
  | .null => "null"
  | .bool b => boolText b
  | .number n => n.text
  | .string s => inQuotes s
  | .array items => '[' :: compactItems items ++ [']']
  | .object members => '\x7b' :: compactMembers members ++ ['\x7d']

/-- Items with commas between them. -/
def compactItems : List Json → Text
  | [] => []
  | [item] => compact item
  | item :: rest => compact item ++ ',' :: compactItems rest

/-- Members with commas between them. -/
def compactMembers : List (Text × Json) → Text
  | [] => []
  | [(key, value)] => inQuotes key ++ ':' :: compact value
  | (key, value) :: rest => inQuotes key ++ ':' :: compact value ++ ',' :: compactMembers rest

end

/-- A new line at a depth. -/
def newline (depth : Nat) : Text := '\n' :: List.replicate (2 * depth) ' '

mutual

/-- The form with one line for each item and member. -/
def indented (depth : Nat) : Json → Text
  | .null => "null"
  | .bool b => boolText b
  | .number n => n.text
  | .string s => inQuotes s
  | .array [] => "[]"
  | .array items => '[' :: indentedItems (depth + 1) items ++ newline depth ++ [']']
  | .object [] => ['\x7b', '\x7d']
  | .object members =>
    '\x7b' :: indentedMembers (depth + 1) members ++ newline depth ++ ['\x7d']

/-- Items, each on a line of its own. -/
def indentedItems (depth : Nat) : List Json → Text
  | [] => []
  | [item] => newline depth ++ indented depth item
  | item :: rest => newline depth ++ indented depth item ++ ',' :: indentedItems depth rest

/-- Members, each on a line of its own. -/
def indentedMembers (depth : Nat) : List (Text × Json) → Text
  | [] => []
  | [(key, value)] => newline depth ++ inQuotes key ++ ": " ++ indented depth value
  | (key, value) :: rest =>
    newline depth ++ inQuotes key ++ ": " ++ indented depth value ++
      ',' :: indentedMembers depth rest

end

end Equate.Json
