import Equate.Text.Basic

/-!
# What can be wrong with a source text

Each fault names the place in the source that has to be mended: a line with its text,
a pair of unit symbols, or a name. The reason of a fault is kept in words, because a
fault can also arrive as a document from elsewhere.
-/
namespace Equate

/-- The reasons to refuse a source text. -/
inductive Fault where
  | unitNotFound (source target : Text)
  | ambiguousUnit (source target : Text) (categories : List Text)
  | parameter (line : Nat) (text reason : Text)
  | directive (line : Nat) (text reason : Text)
  | equation (line : Nat) (text reason : Text)
  | nameConflict (name reason : Text)
  deriving DecidableEq, Repr

namespace Fault

/-- The fault in words. -/
def message : Fault → Text
  | unitNotFound source target =>
    "No unit category contains both '" ++ source ++ "' and '" ++ target ++ "'"
  | ambiguousUnit source target categories =>
    "Conversion '" ++ source ++ "' -> '" ++ target ++ "' is ambiguous across categories: " ++
      Text.joinWith ", " categories
  | parameter line text reason =>
    "Parameter on line " ++ Text.decimal line ++ " ('" ++ text ++ "'): " ++ reason
  | directive line text reason =>
    "Malformed directive on line " ++ Text.decimal line ++ " ('" ++ text ++ "'): " ++ reason
  | equation line text reason =>
    "Malformed equation on line " ++ Text.decimal line ++ " ('" ++ text ++ "'): " ++ reason
  | nameConflict name reason => "Name conflict for '" ++ name ++ "': " ++ reason

/-- The code that callers can tell faults apart by. -/
def code : Fault → Text
  | unitNotFound .. => "UNIT_NOT_FOUND"
  | ambiguousUnit .. => "AMBIGUOUS_UNIT"
  | parameter .. => "PARAMETER_EVAL"
  | directive .. => "MALFORMED_DIRECTIVE"
  | equation .. => "MALFORMED_EQUATION"
  | nameConflict .. => "NAME_CONFLICT"

/-- The line that a fault points at, if it points at one. -/
def line? : Fault → Option Nat
  | parameter line .. => some line
  | directive line .. => some line
  | equation line .. => some line
  | _ => none

end Fault

/-!
## Warnings

What is passed over on the way without being an error.
-/

/-- A matter that the user may want to know of. -/
inductive Warning where
  | unusedGuess (name : Text)
  | unusedBound (name : Text)
  | outsideBound (name : Text) (value : Float)
  | shadowed (name : Text) (parameter solved : Float)
  deriving DecidableEq, Repr

/-- The warning in words. -/
def Warning.message : Warning → Text
  | unusedGuess _ => "guess ignored: variable does not appear in any equation"
  | unusedBound _ => "bound ignored: variable does not appear in any equation"
  | outsideBound .. => "solved value lies outside its bound"
  | shadowed .. => "solved variable shadows a parameter"

end Equate
