import Equate.Text.Basic

/-!
# Bounds of variables
-/
namespace Equate

/-- A closed interval. A bound read from a document may have its ends the wrong way
round; it then contains nothing. -/
structure Bound where
  low : Float
  high : Float
  deriving DecidableEq, Repr

namespace Bound

/-- The interval between two ends in order; an undefined end is in no order. -/
def ofEnds? (low high : Float) : Option Bound := if low ≤ high then some ⟨low, high⟩ else none

/-- The value lies between the ends or on one of them. -/
def contains (b : Bound) (value : Float) : Bool := decide (b.low ≤ value ∧ value ≤ b.high)

theorem ofEnds?_eq_some_iff {low high : Float} {b : Bound} :
    ofEnds? low high = some b ↔ low ≤ high ∧ b = ⟨low, high⟩ := by
  unfold ofEnds?
  split <;> simp_all [eq_comm]

end Bound
end Equate
