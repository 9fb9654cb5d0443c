import Equate.Json.Record
import Equate.Problem.Basic

/-!
# Systems as documents

Writing a system and reading it back passes every float through the shortest digits and
the document reader, which is not exact, so the last place of a number can change.
-/
namespace Equate

namespace Bound

/-- The bound as a document. -/
def toJson (b : Bound) : Json :=
  Json.ofFields [("low", Json.ofFloat b.low), ("high", Json.ofFloat b.high)]

/-- The bound that a document describes. The order of the ends is not checked. -/
def ofJson? (document : Json) : Option Bound := do
  let fields ← Json.fields? ["low", "high"] false document
  let low ← Json.field? fields "low" Json.toFloat?
  let high ← Json.field? fields "high" Json.toFloat?
  return ⟨low, high⟩

end Bound

namespace Parameter

/-- The largest line number. -/
def lineLimit : Nat := Nat.pow 2 64 - 1

/-- The parameter as a document. -/
def toJson (p : Parameter) : Json :=
  Json.ofFields
    [("name", Json.ofText p.name), ("value", Json.ofFloat p.value),
      ("expression", Json.ofText p.expression), ("line", Json.ofNat p.line)]

/-- The parameter that a document describes. -/
def ofJson? (document : Json) : Option Parameter := do
  let fields ← Json.fields? ["name", "value", "expression", "line"] false document
  let name ← Json.field? fields "name" Json.toText?
  let value ← Json.field? fields "value" Json.toFloat?
  let expression ← Json.field? fields "expression" Json.toText?
  let line ← Json.field? fields "line" (Json.toNat? lineLimit)
  return { name, value, expression, line }

end Parameter

namespace Problem

/-- The system as a document. -/
def toJson (s : Problem) : Json :=
  Json.ofFields
    [("equations", Json.ofList Json.ofText s.equations),
      ("variables", Json.ofList Json.ofText s.unknowns),
      ("guesses", Json.ofMap Json.ofFloat s.guesses),
      ("bounds", Json.ofMap Bound.toJson s.bounds),
      ("parameters", Json.ofList Parameter.toJson s.parameters)]

/-- The system that a document describes. -/
def ofJson? (document : Json) : Option Problem := do
  let fields ← Json.fields?
    ["equations", "variables", "guesses", "bounds", "parameters"] false document
  let equations ← Json.field? fields "equations" (Json.toList? Json.toText?)
  let unknowns ← Json.field? fields "variables" (Json.toList? Json.toText?)
  let guesses ← Json.field? fields "guesses" (Json.toMap? Json.toFloat?)
  let bounds ← Json.field? fields "bounds" (Json.toMap? Bound.ofJson?)
  let parameters ← Json.field? fields "parameters" (Json.toList? Parameter.ofJson?)
  return { equations, unknowns, guesses, bounds, parameters }

/-- The system that a text holds. -/
def read? (t : Text) : Option Problem := (Json.parse? t).bind ofJson?

end Problem
end Equate
