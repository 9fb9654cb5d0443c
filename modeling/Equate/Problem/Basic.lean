import Equate.Bound
import Equate.Parameter.Scope

/-!
# Resolved systems

What a solver needs: equations without parameters, their unknowns in the order of
first appearance, a guess for each of them and the bounds that were asked for. The
parameters are kept to be reported with the solution.
-/
namespace Equate

/-- A system of equations ready to be solved. -/
structure Problem where
  equations : List Text
  unknowns : List Text
  guesses : NameMap Float
  bounds : NameMap Bound
  parameters : List Parameter

namespace Problem

/-- The first parameter of a name. -/
def parameter? (s : Problem) (name : Text) : Option Parameter :=
  s.parameters.find? fun p => p.name == name

/-- The values of the parameters by name. -/
def parameterValues (s : Problem) : NameMap Float :=
  .ofEntries (s.parameters.map fun p => (p.name, p.value))

/-- There is nothing to solve. -/
def isEmpty (s : Problem) : Bool := s.equations.isEmpty

/-- The number of unknowns less the number of equations. -/
def degreesOfFreedom (s : Problem) : Int := s.unknowns.length - s.equations.length

end Problem
end Equate
