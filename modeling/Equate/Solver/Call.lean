import Equate.Fault
import Equate.Solver.Request

/-!
# Calling a solver

A solver is any function from requests to replies. It is called once, and only with
limits that pass their check and a system that has equations. The result holds the
parameters and the solved values; where both have a name the solved value counts.
-/
namespace Equate.Solver

/-- What came of a call: the requests that the solver saw, the warnings, and the values
or the failure. -/
structure Outcome where
  requests : List Request
  warnings : List Warning
  result : Except Failure (NameMap Float)

/-- Solved values that lie outside their bounds, in the order of the names. -/
def outsideBounds (bounds : NameMap Bound) (solution : NameMap Float) : List Warning :=
  bounds.toList.filterMap fun (name, bound) => do
    let value ← solution[name]?
    if bound.contains value then none else some (.outsideBound name value)

/-- Solved values with the name of a parameter, in the order of the names. -/
def shadowing (parameters solution : NameMap Float) : List Warning :=
  solution.toList.filterMap fun (name, solved) => do
    let previous ← parameters[name]?
    return .shadowed name previous solved

/-- The parameters with the solution laid over them. -/
def overlay (parameters solution : NameMap Float) : NameMap Float :=
  solution.toList.foldl (fun m (name, value) => m.insert name value) parameters

/-- A call that ends before the solver is asked. -/
def refused (f : Failure) : Outcome := ⟨[], [], .error f⟩

/-- The call of a solver for a system. -/
def call (solve : Request → Reply) (limits : Limits) (s : Problem) : Outcome :=
  match limits.check with
  | .error f => refused f
  | .ok () =>
    if s.isEmpty then refused (.solver "no equations to solve")
    else
      let request := Request.ofProblem s limits
      match solve request with
      | .error text => ⟨[request], [], .error (.solver text)⟩
      | .ok solution =>
        ⟨[request], outsideBounds s.bounds solution ++ shadowing s.parameterValues solution,
          .ok (overlay s.parameterValues solution)⟩

end Equate.Solver
