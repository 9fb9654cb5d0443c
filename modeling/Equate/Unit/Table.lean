import Equate.Failure
import Equate.Json.Parser
import Equate.Json.Value
import Equate.Unit.Category

/-!
# The unit table

A table is read from a configuration: an object of categories, each an object of
symbols with positive factors. Lengths, masses, times, forces and pressures must be
among the categories. Composite units are then generated once: forces as mass times
length over time squared, and from all forces the pressures over a length squared and
the torques, the latter under both orders of their factors.
-/
namespace Equate.Unit

/-- The categories of units, in the order of the configuration. -/
structure Table where
  categories : List Category

namespace Table

/-- The categories that every configuration must have. -/
def required : List Text := ["LENGTH", "MASS", "TIME", "FORCE", "PRESSURE"]

/-- The first category of a name. -/
def category? (t : Table) (name : Text) : Option Category :=
  t.categories.find? fun c => c.name == name

/-- The factor of a symbol within a category. -/
def factor? (t : Table) (category symbol : Text) : Option Float := do
  (← t.category? category).factor? symbol

/-- The number of units in all categories. -/
def size (t : Table) : Nat := t.categories.foldl (fun n c => n + c.size) 0

/-- The units of a category; none if there is no such category. -/
def unitsOf (t : Table) (name : Text) : List (Text × Float) :=
  match t.category? name with
  | some c => c.toList
  | none => []

/-- Units inserted into the category of a name, which is added at the end if it is
missing. -/
def insertInto (name : Text) (entries : List (Text × Float)) : List Category → List Category
  | [] => [(Category.empty name).insertAll entries]
  | c :: rest =>
    if c.name = name then c.insertAll entries :: rest else c :: insertInto name entries rest

/-- The forces that times, lengths and masses make, in this order of the loops. -/
def composedForces (times lengths masses : List (Text × Float)) : List (Text × Float) :=
  times.flatMap fun (t, perTime) =>
    lengths.flatMap fun (l, perLength) =>
      masses.map fun (m, perMass) =>
        (m ++ "-" ++ l ++ "/" ++ t ++ "^2", perMass * perLength / (perTime * perTime))

/-- The pressures that forces make over squared lengths. -/
def composedPressures (lengths forces : List (Text × Float)) : List (Text × Float) :=
  lengths.flatMap fun (l, perLength) =>
    forces.map fun (f, perForce) => (f ++ "/" ++ l ++ "^2", perForce / (perLength * perLength))

/-- The torques that forces make with lengths, each under two symbols. -/
def composedTorques (lengths forces : List (Text × Float)) : List (Text × Float) :=
  lengths.flatMap fun (l, perLength) =>
    forces.flatMap fun (f, perForce) =>
      [(f ++ "-" ++ l, perForce * perLength), (l ++ "-" ++ f, perForce * perLength)]

/-- The table with the forces generated. -/
def withForces (t : Table) : Table :=
  ⟨insertInto "FORCE"
    (composedForces (t.unitsOf "TIME") (t.unitsOf "LENGTH") (t.unitsOf "MASS")) t.categories⟩

/-- The table with the pressures and torques generated. -/
def withPressuresAndTorques (t : Table) : Table :=
  let lengths := t.unitsOf "LENGTH"
  let forces := t.unitsOf "FORCE"
  ⟨insertInto "TORQUE" (composedTorques lengths forces)
    (insertInto "PRESSURE" (composedPressures lengths forces) t.categories)⟩

/-- The factor of one entry of a configuration. -/
def readFactor (category symbol : Text) (value : Json.Value) : Except Failure Float :=
  match value.toFloat? with
  | none =>
    .error (.configuration ("unit '" ++ symbol ++ "' in '" ++ category ++
      "' has non-numeric factor " ++ Json.compact (Json.ofValue value)))
  | some factor =>
    if factor.isFinite && decide (0 < factor) then .ok factor
    else
      .error (.configuration ("unit '" ++ symbol ++ "' in '" ++ category ++
        "' must have a positive factor, got " ++ Number.plain factor))

/-- The entries of one category put into it. -/
def readEntries (c : Category) : List (Text × Json.Value) → Except Failure Category
  | [] => .ok c
  | (symbol, value) :: rest => do
    let factor ← readFactor c.name symbol value
    readEntries (c.insert symbol factor) rest

/-- The categories of a configuration. -/
def readCategories : List (Text × Json.Value) → Except Failure (List Category)
  | [] => .ok []
  | (name, .object entries) :: rest => do
    let category ← readEntries (.empty name) entries
    let more ← readCategories rest
    return category :: more
  | (name, _) :: _ =>
    .error (.configuration ("category '" ++ name ++ "' must be an object of unit factors"))

/-- The first required category that is missing. -/
def missing? (categories : List Category) : Option Text :=
  required.find? fun name => !categories.any fun c => c.name == name

/-- The table of a configuration. -/
def load : Json.Value → Except Failure Table
  | .object members => do
    let categories ← readCategories members
    match missing? categories with
    | some name =>
      .error (.configuration ("missing required unit category '" ++ name ++ "'"))
    | none => .ok (Table.mk categories).withForces.withPressuresAndTorques
  | _ => .error (.configuration "unit configuration must be a JSON object of categories")

/-- The table of a configuration as text. -/
def read (t : Text) : Except Failure Table :=
  match (Json.parse? t).bind (Json.evaluate? Json.depthLimit) with
  | none => .error (.document "Invalid unit configuration JSON")
  | some value => load value

end Table
end Equate.Unit
