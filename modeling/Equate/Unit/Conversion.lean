import Equate.Fault
import Equate.Unit.Table

/-!
# Conversion factors

Every category that has both symbols proposes a factor. The first proposal is taken if
all proposals agree with it up to a relative tolerance; a proposal also has to agree
with itself, which one that is zero, infinite or undefined does not.
-/
namespace Equate.Unit

/-- The relative difference up to which two factors count as equal. -/
def agreementTolerance : Float := 1e-12

/-- Another factor is near enough to the first. -/
def agrees (first other : Float) : Bool :=
  decide (((other - first) / first).abs ≤ agreementTolerance)

/-- The factor that a category proposes, with the name of the category. -/
def proposal? (source target : Text) (c : Category) : Option (Text × Float) := do
  let perSource ← c.factor? source
  let perTarget ← c.factor? target
  return (c.name, perTarget / perSource)

/-- The factor that carries a value in one unit to the other. -/
def Table.conversion (t : Table) (source target : Text) : Except Fault Float :=
  match t.categories.filterMap (proposal? source target) with
  | [] => .error (.unitNotFound source target)
  | (name, first) :: rest =>
    let proposals := (name, first) :: rest
    if proposals.all fun (_, other) => agrees first other then .ok first
    else .error (.ambiguousUnit source target (proposals.map (·.1)))

end Equate.Unit
