import Std.Data.ExtTreeMap
import Equate.Text.Basic

/-!
# Names

Names are ASCII identifiers. Some are taken: the functions and constants that the
solver knows, in the spelling it knows them by, and the words of the directive lines
in any spelling. In a map keyed by names the keys are ordered by their characters, which
is the order of their UTF-8 bytes too, and two maps with the same entries are equal.
-/
namespace Equate

namespace Name

/-- A character that a name can start with. -/
def isStart (c : Char) : Bool := c.isAlpha || c == '_'

/-- A character that a name can go on with. -/
def isContinue (c : Char) : Bool := c.isAlphanum || c == '_'

/-- The text is one name and nothing else. -/
def isIdentifier : Text → Bool
  | [] => false
  | c :: rest => isStart c && rest.all isContinue

/-- The functions that the solver evaluates inside equations. -/
def functions : List Text := [
  "sqrt", "exp", "ln", "log", "abs", "sin", "cos", "tan", "asin", "acos", "atan", "atan2",
  "sinh", "cosh", "tanh", "asinh", "acosh", "atanh", "floor", "ceil", "round", "signum",
  "max", "min"]

/-- The constants that the solver provides. -/
def constants : List Text := ["pi", "e"]

/-- The words with a meaning in directive lines. -/
def keywords : List Text := ["guess", "for", "keep", "on"]

/-- A name that no parameter may take. -/
def isReserved (name : Text) : Bool :=
  keywords.contains (name.map Char.toLower) || functions.contains name ||
    constants.contains name

end Name

/-- A map from names, in the order of the names. -/
abbrev NameMap (α : Type) := Std.ExtTreeMap Text α compare

namespace NameMap

/-- The map of a list of entries; of two entries with one name the later counts. -/
def ofEntries {α : Type} (entries : List (Text × α)) : NameMap α :=
  entries.foldl (fun m (name, value) => m.insert name value) ∅

end NameMap
end Equate
