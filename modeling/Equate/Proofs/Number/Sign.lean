import Equate.Proofs.Number.Binary64

/-!
# Numbers without a minus sign

A product or quotient of numbers without a minus sign has none either, whatever else comes of
it: rounding keeps the sign, and what is undefined has the code of a positive number. A positive
number has no minus sign, and what is near to itself by a relative measure is finite and, if it
has no minus sign, positive.
-/
namespace Equate.Number
open Float.Model Float.Model.UnpackedFloat

/-! ## Signs of unpacked numbers -/

/-- No part of an unpacked number is negative. -/
def Unsigned : UnpackedFloat → Prop
  | .notANumber => True
  | .infinity s => s = .positive
  | .zero s => s = .positive
  | .finite s _ _ _ => s = .positive

theorem unsigned_roundWithAccuracy (m : Nat) (e : Int) (a : Accuracy) :
    Unsigned (roundWithAccuracy format .positive m e a) := by
  unfold roundWithAccuracy
  dsimp only
  split <;> rfl

theorem Unsigned.mul {u v : UnpackedFloat} (hu : Unsigned u) (hv : Unsigned v) :
    Unsigned (UnpackedFloat.mul format u v) := by
  cases u <;> cases v
  case finite.finite =>
    cases hu
    cases hv
    exact unsigned_roundWithAccuracy _ _ _
  all_goals first | trivial | (cases hu; cases hv; rfl)

theorem Unsigned.div {u v : UnpackedFloat} (hu : Unsigned u) (hv : Unsigned v) :
    Unsigned (UnpackedFloat.div format u v) := by
  cases u <;> cases v
  case finite.finite =>
    cases hu
    cases hv
    exact unsigned_roundWithAccuracy _ _ _
  all_goals first | trivial | (cases hu; cases hv; rfl)

theorem Unsigned.toNat_pack_lt {u : UnpackedFloat} (hu : Unsigned u) :
    (UnpackedFloat.pack format u).toNat < 2 ^ 63 := by
  have hcomponents : ∀ (e : BitVec 11) (m : BitVec 52),
      (packComponents format .positive e m).toNat < 2 ^ 63 := by
    intro e m
    have he := e.isLt
    have hm := m.isLt
    rw [toNat_packComponents, show Sign.positive.toBitVec.toNat = 0 from rfl]
    omega
  cases u with
  | notANumber => decide
  | infinity s => cases hu; decide
  | zero s => cases hu; decide
  | finite s m e hm =>
    cases hu
    unfold UnpackedFloat.pack
    dsimp only
    split_ifs
    · decide
    · exact hcomponents _ _
    · exact hcomponents _ _

theorem unsigned_unpack {x : Float} (hx : isNegative x = false) : Unsigned x.toModel.unpack := by
  have hlt : x.toBits.toNat < 2 ^ 63 := by rwa [← Bool.not_eq_true, isNegative_iff, Nat.not_le] at hx
  have hsign : Sign.ofBitVec (@unpackSign format x.toBits.toBitVec) = .positive := by
    have hzero : @unpackSign format x.toBits.toBitVec = 0#1 := by
      apply BitVec.eq_of_toNat_eq
      rw [toNat_unpackSign]
      exact Nat.div_eq_of_lt hlt
    rw [hzero]
    rfl
  show Unsigned (UnpackedFloat.unpack format x.toBits.toBitVec)
  unfold UnpackedFloat.unpack
  dsimp only
  rw [hsign]
  split_ifs <;> first | rfl | trivial

theorem unsigned_of_pos {u : UnpackedFloat} (h : (UnpackedFloat.zero .positive).lt u = true) :
    Unsigned u := by
  cases u with
  | notANumber => trivial
  | zero s => cases s <;> exact absurd h (by decide)
  | infinity s => cases s with
    | negative => exact absurd h (by decide)
    | positive => rfl
  | finite s m e hm => cases s with
    | negative => exact absurd h (by simp [UnpackedFloat.lt, UnpackedFloat.compare])
    | positive => rfl

/-! ## Arithmetic -/

section
variable {x y : Float}

theorem isNegative_of_unsigned {u : UnpackedFloat} (hu : Unsigned u) :
    isNegative ⟨Float.Model.pack u⟩ = false := by
  rw [← Bool.not_eq_true, isNegative_iff, Nat.not_le]
  exact hu.toNat_pack_lt

theorem isNegative_mul (hx : isNegative x = false) (hy : isNegative y = false) :
    isNegative (x * y) = false :=
  isNegative_of_unsigned ((unsigned_unpack hx).mul (unsigned_unpack hy))

theorem isNegative_div (hx : isNegative x = false) (hy : isNegative y = false) :
    isNegative (x / y) = false :=
  isNegative_of_unsigned ((unsigned_unpack hx).div (unsigned_unpack hy))

theorem lt_iff : x < y ↔ x.toModel.unpack.lt y.toModel.unpack = true := decide_eq_true_iff

theorem le_iff : x ≤ y ↔ x.toModel.unpack.le y.toModel.unpack = true := decide_eq_true_iff

theorem not_le_of_unpack (h : x.toModel.unpack = .notANumber) : ¬ x ≤ y := by
  have hundefined : ∀ v, UnpackedFloat.le .notANumber v = false := fun v => by cases v <;> rfl
  rw [le_iff, h, hundefined]
  exact Bool.false_ne_true

theorem isNegative_of_pos (h : 0 < x) : isNegative x = false := by
  have hpack : UnpackedFloat.pack format x.toModel.unpack = x.toBits.toBitVec :=
    pack_unpack_of_valid x.toModel.valid
  have hlt := (unsigned_of_pos (lt_iff.mp h)).toNat_pack_lt
  rw [hpack] at hlt
  rw [← Bool.not_eq_true, isNegative_iff, Nat.not_le]
  exact hlt

/-! ## Relative differences

The result of each operation is packed and read again.
-/

theorem unpack_sub (x y : Float) : (x - y).toModel.unpack =
    (Float.Model.pack (UnpackedFloat.sub format x.toModel.unpack y.toModel.unpack)).unpack := rfl

theorem unpack_div (x y : Float) : (x / y).toModel.unpack =
    (Float.Model.pack (UnpackedFloat.div format x.toModel.unpack y.toModel.unpack)).unpack := rfl

theorem unpack_abs (x : Float) : x.abs.toModel.unpack =
    (Float.Model.pack (UnpackedFloat.abs x.toModel.unpack)).unpack := rfl

theorem unpack_pack_notANumber : (Float.Model.pack .notANumber).unpack = .notANumber := rfl

theorem unpack_pack_zero : (Float.Model.pack (.zero .positive)).unpack = .zero .positive := rfl

/-- The relative difference of a number to itself is undefined unless it is finite. -/
theorem unpack_abs_sub_self_div (h : x.isFinite = false) :
    ((x - x) / x).abs.toModel.unpack = .notANumber := by
  have hsub : UnpackedFloat.sub format x.toModel.unpack x.toModel.unpack = .notANumber := by
    have hmodel : x.toModel.unpack.isFinite = false := h
    cases hx : x.toModel.unpack with
    | notANumber => rfl
    | infinity s => cases s <;> rfl
    | zero s => rw [hx] at hmodel; cases hmodel
    | finite s m e hm => rw [hx] at hmodel; cases hmodel
  have hdiv : ∀ v, UnpackedFloat.div format .notANumber v = .notANumber := fun v => by cases v <;> rfl
  rw [unpack_abs, unpack_div, unpack_sub, hsub, unpack_pack_notANumber, hdiv, unpack_pack_notANumber]
  rfl

/-- A finite number without a minus sign is zero or positive. -/
theorem unpack_of_isFinite (hfinite : x.isFinite = true) (hsign : isNegative x = false) :
    x.toModel.unpack = .zero .positive ∨ ∃ m e hm, x.toModel.unpack = .finite .positive m e hm := by
  have hunsigned := unsigned_unpack hsign
  have hmodel : x.toModel.unpack.isFinite = true := hfinite
  cases hx : x.toModel.unpack with
  | notANumber => rw [hx] at hmodel; cases hmodel
  | infinity s => rw [hx] at hmodel; cases hmodel
  | zero s =>
    rw [hx] at hunsigned
    exact .inl (congrArg _ hunsigned)
  | finite s m e hm =>
    rw [hx] at hunsigned
    cases hunsigned
    exact .inr ⟨m, e, hm, rfl⟩

theorem pos_iff_of_unpack : 0 < x ↔ (UnpackedFloat.zero .positive).lt x.toModel.unpack = true := lt_iff

theorem unpack_sub_self (hfinite : x.isFinite = true) : (x - x).toModel.unpack = .zero .positive := by
  have hmodel : x.toModel.unpack.isFinite = true := hfinite
  have hsub : UnpackedFloat.sub format x.toModel.unpack x.toModel.unpack = .zero .positive := by
    cases hx : x.toModel.unpack with
    | notANumber => rw [hx] at hmodel; cases hmodel
    | infinity s => rw [hx] at hmodel; cases hmodel
    | zero s => cases s <;> rfl
    | finite s m e hm =>
      simp only [UnpackedFloat.sub, Int.sub_self, UnpackedFloat.normalize]
      rfl
  rw [unpack_sub, hsub, unpack_pack_zero]

/-- The relative difference of a positive finite number to itself is zero. -/
theorem unpack_abs_sub_self_div_of_pos (hfinite : x.isFinite = true) (hpos : 0 < x) :
    ((x - x) / x).abs.toModel.unpack = .zero .positive := by
  obtain hx | ⟨m, e, hm, hx⟩ := unpack_of_isFinite hfinite (isNegative_of_pos hpos)
  · rw [pos_iff_of_unpack, hx] at hpos
    exact absurd hpos (by decide)
  · have hdiv : UnpackedFloat.div format (.zero .positive) (.finite .positive m e hm) =
        .zero .positive := rfl
    rw [unpack_abs, unpack_div, unpack_sub_self hfinite, hx, hdiv, unpack_pack_zero]
    rfl

/-- That of zero is undefined. -/
theorem unpack_abs_sub_self_div_of_zero (hx : x.toModel.unpack = .zero .positive) :
    ((x - x) / x).abs.toModel.unpack = .notANumber := by
  have hfinite : x.isFinite = true := by
    show x.toModel.unpack.isFinite = true
    rw [hx]
    rfl
  have hdiv : UnpackedFloat.div format (.zero .positive) (.zero .positive) = .notANumber := rfl
  rw [unpack_abs, unpack_div, unpack_sub_self hfinite, hx, hdiv, unpack_pack_notANumber]
  rfl

/-- The relative difference of a number to itself is bounded for the positive finite ones alone. -/
theorem abs_sub_self_div_le_iff {bound : Float} (hbound : 0 ≤ bound) (hsign : isNegative x = false) :
    ((x - x) / x).abs ≤ bound ↔ x.isFinite = true ∧ 0 < x := by
  constructor
  · intro h
    by_cases hfinite : x.isFinite = true
    · refine ⟨hfinite, ?_⟩
      obtain hx | ⟨m, e, hm, hx⟩ := unpack_of_isFinite hfinite hsign
      · exact absurd h (not_le_of_unpack (unpack_abs_sub_self_div_of_zero hx))
      · rw [pos_iff_of_unpack, hx]
        rfl
    · exact absurd h (not_le_of_unpack (unpack_abs_sub_self_div (by simpa using hfinite)))
  · rintro ⟨hfinite, hpos⟩
    rw [le_iff, unpack_abs_sub_self_div_of_pos hfinite hpos]
    exact le_iff.mp hbound

end

end Equate.Number
