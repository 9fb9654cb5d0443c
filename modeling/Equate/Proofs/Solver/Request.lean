import Equate.Proofs.Number.Binary64
import Equate.Solver.Request

/-!
# Requests without a null

A null takes the place of every number that is not finite, and nothing else in a request is
one. So a request has no null exactly if all its numbers are finite.
-/
namespace Equate

namespace Json

mutual

/-- A null stands somewhere in the document. -/
def hasNull : Json → Bool
  | .null => true
  | .array items => itemsHaveNull items
  | .object members => membersHaveNull members
  | _ => false

/-- A null stands somewhere in the items. -/
def itemsHaveNull : List Json → Bool
  | [] => false
  | item :: rest => hasNull item || itemsHaveNull rest

/-- A null stands somewhere in the members. -/
def membersHaveNull : List (Text × Json) → Bool
  | [] => false
  | (_, document) :: rest => hasNull document || membersHaveNull rest

end

@[simp] theorem hasNull_ofText (t : Text) : hasNull (ofText t) = false := by
  simp [ofText, hasNull]

@[simp] theorem hasNull_ofNat (n : Nat) : hasNull (ofNat n) = false := by
  simp [ofNat, hasNull]

theorem hasNull_ofFloat {x : Float} : hasNull (ofFloat x) = false ↔ x.isFinite = true := by
  rw [Number.isFinite_iff]
  unfold ofFloat
  split <;> simp_all [hasNull]

@[simp] theorem hasNull_array {items : List Json} :
    hasNull (.array items) = false ↔ ∀ item ∈ items, hasNull item = false := by
  rw [hasNull]
  induction items with
  | nil => simp [itemsHaveNull]
  | cons item items ih => simp [itemsHaveNull, ih]

@[simp] theorem hasNull_ofFields {fields : List (Text × Json)} :
    hasNull (ofFields fields) = false ↔ ∀ field ∈ fields, hasNull field.2 = false := by
  rw [ofFields, hasNull]
  induction fields with
  | nil => simp [membersHaveNull]
  | cons field fields ih =>
    rw [List.map_cons, membersHaveNull, Bool.or_eq_false_iff, ih, List.forall_mem_cons]

@[simp] theorem hasNull_ofMap {α : Type} {value : α → Json} {m : NameMap α} :
    hasNull (ofMap value m) = false ↔
      ∀ (name : Text) x, m[name]? = some x → hasNull (value x) = false := by
  rw [ofMap, hasNull_ofFields, List.forall_mem_map, Prod.forall]
  refine forall_congr' fun name => forall_congr' fun x => ?_
  rw [Std.ExtTreeMap.mem_toList_iff_getElem?_eq_some]

end Json

namespace Solver

/-- All numbers of a request are finite. -/
structure Request.Finite (r : Request) : Prop where
  guesses : ∀ (name : Text) x, r.guesses[name]? = some x → x.isFinite = true
  bounds : ∀ (name : Text) b, r.bounds[name]? = some b → b.low.isFinite = true ∧ b.high.isFinite = true
  tolerance : r.limits.tolerance.isFinite = true

theorem Request.hasNull_toJson_iff {r : Request} : r.toJson.hasNull = false ↔ r.Finite := by
  have hends : ∀ b : Bound,
      (Json.array [Json.ofFloat b.low, Json.ofFloat b.high]).hasNull = false ↔
        b.low.isFinite = true ∧ b.high.isFinite = true := by
    intro b
    simp [Json.hasNull_ofFloat]
  have hparts : r.toJson.hasNull = false ↔
      (∀ (name : Text) x, r.guesses[name]? = some x → x.isFinite = true) ∧
        (∀ (name : Text) b, r.bounds[name]? = some b →
          b.low.isFinite = true ∧ b.high.isFinite = true) ∧
        r.limits.tolerance.isFinite = true := by
    simp [Request.toJson, Json.ofList, Json.hasNull_ofFloat, hends]
  rw [hparts]
  exact ⟨fun h => ⟨h.1, h.2.1, h.2.2⟩, fun h => ⟨h.guesses, h.bounds, h.tolerance⟩⟩

theorem Limits.isFinite_of_check {l : Limits} (h : l.check = .ok ()) : l.tolerance.isFinite = true := by
  unfold Limits.check at h
  split at h
  · cases h
  · next hfinite =>
    rw [Bool.not_eq_true', Bool.not_eq_false, Bool.and_eq_true] at hfinite
    exact hfinite.1

end Solver
end Equate
