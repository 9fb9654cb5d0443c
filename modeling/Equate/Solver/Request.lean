import Equate.Failure
import Equate.Json.Record
import Equate.Number.Plain
import Equate.Problem.Basic

/-!
# What a solver is asked and what it answers

A request is one document with the equations, a guess for every variable, the bounds as
pairs and the two limits of the search. A reply is an object with exactly one member:
the solution by variable, or the solver's own words about its failure.
-/
namespace Equate.Solver

/-- The limits of a search. -/
structure Limits where
  tolerance : Float
  iterations : Nat
  deriving DecidableEq, Repr

/-- The limits when none are given. -/
def Limits.default : Limits := ⟨1e-5, 300⟩

/-- Limits that a search can be run with: a positive finite tolerance and at least one
iteration. -/
def Limits.check (l : Limits) : Except Failure Unit :=
  if !(l.tolerance.isFinite && decide (0 < l.tolerance)) then
    .error (.configuration
      ("tolerance must be a positive finite number, got " ++ Number.plain l.tolerance))
  else if l.iterations = 0 then .error (.configuration "iteration limit must be at least 1")
  else .ok ()

/-- Everything that a solver needs for one call. -/
structure Request where
  equations : List Text
  guesses : NameMap Float
  bounds : NameMap Bound
  limits : Limits

/-- The request for a system. -/
def Request.ofProblem (s : Problem) (limits : Limits) : Request :=
  ⟨s.equations, s.guesses, s.bounds, limits⟩

/-- The request as a document. -/
def Request.toJson (r : Request) : Json :=
  Json.ofFields
    [("equations", Json.ofList Json.ofText r.equations),
      ("guesses", Json.ofMap Json.ofFloat r.guesses),
      ("bounds", Json.ofMap (fun b => .array [Json.ofFloat b.low, Json.ofFloat b.high]) r.bounds),
      ("tolerance", Json.ofFloat r.limits.tolerance),
      ("iteration_limit", Json.ofNat r.limits.iterations)]

/-- The answer of a solver: values by name, or its own words about its failure. -/
abbrev Reply := Except Text (NameMap Float)

/-- The reply that a document describes. -/
def replyOfJson? : Json → Option Reply
  | .object [(quoted, document)] => do
    let key ← Json.unquote? quoted
    if key = ("solution" : Text) then return .ok (← Json.toMap? Json.toFloat? document)
    else if key = ("error" : Text) then return .error (← Json.toText? document)
    else none
  | _ => none

/-- The reply that a text holds. -/
def readReply? (t : Text) : Option Reply := (Json.parse? t).bind replyOfJson?

end Equate.Solver
