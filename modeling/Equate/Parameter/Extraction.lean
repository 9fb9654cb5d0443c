import Equate.Directive.Pattern
import Equate.Equation
import Equate.Name.Piece
import Equate.Parameter.Scope
import Equate.Text.Basic

/-!
# Parameters taken out of a text

A line with a colon defines a parameter. All definitions are carried out from the top,
then every other line is checked for uses that the replacement of names would hide, and
at last each parameter's name gives way to its value in parentheses, above its
definition too.
-/
namespace Equate.Scope

/-- The definitions of a text: the lines with a colon, cut at the first one. -/
def definitions (t : Text) : List Definition :=
  (Text.numberedLines t).filterMap fun (line, n) =>
    (Text.splitAt? ':' line).map fun (name, expression) =>
      ⟨n, Text.trim line, Text.trim name, Text.trim expression⟩

/-- A value as it stands in the place of a name. -/
def valueText (value : Float) : Text := "(" ++ Number.plain value ++ ")"

/-- The text with each parameter's name replaced by its value. -/
def substitute (s : Scope) (t : Text) : Text :=
  Name.substitute (fun name => (s.value? name).map valueText) t

/-- The check of a directive line: it may not be about a parameter. -/
def checkDirective (s : Scope) (n : Nat) (line : Text) : Except Fault Unit :=
  match Directive.target? line with
  | none => .ok ()
  | some target =>
    if s.contains target then
      .error (.nameConflict target
        ("line " ++ Text.decimal n ++ " uses a parameter as a directive target"))
    else .ok ()

/-- The check of an equation: no name may stand against a number, and the names may not
all be parameters if there are any. -/
def checkEquation (s : Scope) (n : Nat) (line : Text) : Except Fault Unit :=
  match Name.gluedName? line with
  | some name => .error ((Equation.Cause.missingOperator name).fault n line)
  | none =>
    match Name.identifiers line with
    | [] => .ok ()
    | first :: rest =>
      if (first :: rest).all s.contains then
        .error (.nameConflict first
          ("line " ++ Text.decimal n ++
            " uses only parameters, leaving nothing to solve for"))
      else .ok ()

/-- The check of a line; prose passes. -/
def checkLine (s : Scope) (n : Nat) (line : Text) : Except Fault Unit :=
  if (Directive.kind? line).isSome then s.checkDirective n line
  else if Equation.isCandidate line then s.checkEquation n line
  else .ok ()

/-- The scope of a text, and the text with the definitions blanked and the names
replaced. -/
def extract (t : Text) : Except Fault (Text × Scope) := do
  let ds := definitions t
  let s ← ofDefinitions ds
  let remaining := Text.blank (ds.map Definition.line) t
  (Text.numberedLines remaining).forM fun (line, n) => s.checkLine n line
  return (s.substitute remaining, s)

end Equate.Scope
