import Equate.Fault
import Equate.Text.Blank

/-!
# Equations

A line with an equals sign is an equation. It must have exactly one, with something on
both of its sides.
-/
namespace Equate.Equation

/-- What can be wrong with an equation. -/
inductive Cause where
  | missingOperator (name : Text)
  | notOneEquals
  | blankSide
  deriving DecidableEq, Repr

/-- The cause in words. -/
def Cause.reason : Cause → Text
  | missingOperator name => "missing operator before '" ++ name ++ "'"
  | notOneEquals => "expected exactly one '='"
  | blankSide => "both sides of '=' must be non-empty"

/-- The fault of a line. -/
def Cause.fault (cause : Cause) (n : Nat) (line : Text) : Fault :=
  .equation n (Text.trim line) cause.reason

/-- A line that has an equals sign. -/
def isCandidate (line : Text) : Bool := line.contains '='

/-- What is wrong with a candidate, if anything is. -/
def cause? (line : Text) : Option Cause :=
  match Text.splitOn '=' line with
  | [left, right] =>
    if Text.isBlankText left ∨ Text.isBlankText right then some .blankSide else none
  | _ :: _ :: _ :: _ => some .notOneEquals
  | _ => some .blankSide

/-- The equation of a numbered line, without the blanks around it. -/
def read (line : Text) (n : Nat) : Except Fault Text :=
  match cause? (Text.trim line) with
  | some cause => .error (cause.fault n line)
  | none => .ok (Text.trim line)

/-- The equations of a text. -/
def readAll (t : Text) : Except Fault (List Text) :=
  ((Text.numberedLines t).filter fun (line, _) => isCandidate line).mapM fun (line, n) =>
    read line n

end Equate.Equation
