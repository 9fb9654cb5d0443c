import Equate.Conversion.Tag
import Equate.Directive.Extraction
import Equate.Failure
import Equate.Fault
import Equate.Parameter.Extraction
import Equate.Problem.Basic
import Equate.Unit.Conversion

/-!
# From source text to a system

The text is changed in three steps, each of which reads what the one before has left:
conversion tags become factors, parameters become their values, directives are taken
out. What then has an equals sign is an equation, and everything else is prose. Guesses
and bounds for names that no equation uses are dropped with a warning, and a variable
without a guess starts at one.
-/
namespace Equate.Problem

/-- The guess for a variable without one. -/
def defaultGuess : Float := 1

/-- The names of a map that are not among the unknowns, in the order of the names. -/
def unused {α : Type} (m : NameMap α) (unknowns : List Text) : List Text :=
  m.keys.filter fun name => !unknowns.contains name

/-- The system of equations, with the guesses and bounds that were given. -/
def collect (equations : List Text) (guesses : NameMap Float) (bounds : NameMap Bound)
    (parameters : List Parameter) : Problem × List Warning :=
  let unknowns := (equations.flatMap Name.identifiers).eraseDups
  let kept := guesses.filter fun name _ => unknowns.contains name
  ({ equations
     unknowns
     guesses := unknowns.foldl (fun m name => m.insertIfNew name defaultGuess) kept
     bounds := bounds.filter fun name _ => unknowns.contains name
     parameters },
   (unused guesses unknowns).map .unusedGuess ++ (unused bounds unknowns).map .unusedBound)

/-- The system of a source text, with warnings. -/
def resolve (units : Unit.Table) (source : Text) : Except Fault (Problem × List Warning) := do
  let text ← Conversion.resolve units.conversion source
  let (text, scope) ← Scope.extract text
  let found ← Directive.extract text
  let equations ← Equation.readAll found.remaining
  return collect equations found.guesses found.bounds scope.parameters

/-- The same with the fault of the source as the failure of a run. -/
def ofSource (units : Unit.Table) (source : Text) : Except Failure (Problem × List Warning) :=
  (resolve units source).mapError .source

end Equate.Problem
