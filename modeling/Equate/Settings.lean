import Equate.Solver.Request

/-!
# Settings

The limits of the search, where the units come from and how the solver is started. All
four may be left out; a name that is none of theirs is refused.
-/
namespace Equate

/-- The settings of a run. Without a path the bundled units are taken. -/
structure Settings where
  limits : Solver.Limits
  unitsPath : Option Text
  solverCommand : List Text
  deriving DecidableEq, Repr

namespace Settings

/-- The settings when none are given. -/
def default : Settings := ⟨.default, none, []⟩

/-- The largest number of iterations. -/
def iterationLimit : Nat := Nat.pow 2 32 - 1

/-- The settings as a document. -/
def toJson (s : Settings) : Json :=
  Json.ofFields
    [("tolerance", Json.ofFloat s.limits.tolerance),
      ("iteration_limit", Json.ofNat s.limits.iterations),
      ("units_path", match s.unitsPath with
        | none => .null
        | some path => Json.ofText path),
      ("solver_command", Json.ofList Json.ofText s.solverCommand)]

/-- A path, or none. -/
def toPath? : Json → Option (Option Text)
  | .null => some none
  | document => (Json.toText? document).map some

/-- The settings that a document describes. -/
def ofJson? (document : Json) : Option Settings := do
  let fields ← Json.fields?
    ["tolerance", "iteration_limit", "units_path", "solver_command"] true document
  let tolerance ← Json.fieldOr? fields "tolerance" default.limits.tolerance Json.toFloat?
  let iterations ← Json.fieldOr? fields "iteration_limit" default.limits.iterations
    (Json.toNat? iterationLimit)
  let unitsPath ← Json.fieldOr? fields "units_path" none toPath?
  let solverCommand ← Json.fieldOr? fields "solver_command" [] (Json.toList? Json.toText?)
  return { limits := ⟨tolerance, iterations⟩, unitsPath, solverCommand }

/-- The settings that a text holds, with limits that pass their check. -/
def read (t : Text) : Except Failure Settings := do
  match (Json.parse? t).bind ofJson? with
  | none => .error (.document "Invalid settings")
  | some s =>
    s.limits.check
    return s

end Settings
end Equate
