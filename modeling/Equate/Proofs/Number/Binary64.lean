import Mathlib
import Equate.Number.Rounding

/-!
# Codes of binary64 numbers

A code is made up of a sign, an exponent and a mantissa. Unpacking a code that is not
that of an undefined number and packing it again gives the code back, and the opposite
number differs in the sign alone. From this follow the facts about whole numbers that the
rest uses: a finite number is known by its sign and the code of its magnitude, finite
magnitudes have codes below that of the infinity, and the opposite of the opposite is the
number itself, the zeros included.
-/
namespace Equate.Number
open Float.Model Float.Model.UnpackedFloat

/-! ## Parts of a code -/

/-- The format of all numbers here. -/
abbrev format : Float.Model.Format := .binary64

theorem toNat_unpackMantissa (b : BitVec format.numBits) :
    (unpackMantissa b).toNat = b.toNat % 2 ^ 52 := by
  simp [unpackMantissa, BitVec.extractLsb_toNat]

theorem toNat_unpackExponent (b : BitVec format.numBits) :
    (unpackExponent b).toNat = b.toNat / 2 ^ 52 % 2 ^ 11 := by
  simp [unpackExponent, BitVec.extractLsb_toNat, Nat.shiftRight_eq_div_pow]

theorem toNat_unpackSign (b : BitVec format.numBits) :
    (unpackSign b).toNat = b.toNat / 2 ^ 63 := by
  have hb : b.toNat < 2 ^ 64 := b.isLt
  simp only [unpackSign, BitVec.toNat_cast, BitVec.extractLsb_toNat, Nat.shiftRight_eq_div_pow]
  omega

theorem toNat_packComponents (s : Sign) (e : BitVec 11) (m : BitVec 52) :
    (packComponents format s e m).toNat = s.toBitVec.toNat * 2 ^ 63 + e.toNat * 2 ^ 52 + m.toNat := by
  have he := e.isLt
  have hm := m.isLt
  simp only [packComponents, BitVec.toNat_append]
  rw [← Nat.shiftLeft_add_eq_or_of_lt he, ← Nat.shiftLeft_add_eq_or_of_lt hm]
  simp only [Nat.shiftLeft_eq]
  omega

theorem neg_unpack_packComponents (s : Sign) (e : BitVec 11) (m : BitVec 52) :
    (UnpackedFloat.unpack format (packComponents format s e m)).neg =
      UnpackedFloat.unpack format (packComponents format (-s) e m) := by
  unfold UnpackedFloat.unpack
  simp only [unpackMantissa_packComponents, unpackExponent_packComponents,
    unpackSign_packComponents, Sign.ofBitVec_toBitVec]
  split
  · split <;> rfl
  · split
    · split <;> rfl
    · rfl

/-! ## Signs and magnitudes -/

theorem toNat_toBits_lt (x : Float) : x.toBits.toNat < 2 ^ 64 := x.toBits.toNat_lt

theorem infinityCode_eq : infinityCode = 2047 * 2 ^ 52 := rfl

theorem magnitudeCode_eq (x : Float) : magnitudeCode x = x.toBits.toNat % 2 ^ 63 := rfl

theorem isNegative_iff (x : Float) : isNegative x = true ↔ 2 ^ 63 ≤ x.toBits.toNat :=
  decide_eq_true_iff

/-- A number is known by its sign and the code of its magnitude. -/
theorem eq_of_magnitudeCode_eq {x y : Float} (hsign : isNegative x = isNegative y)
    (hcode : magnitudeCode x = magnitudeCode y) : x = y := by
  have hbits : x.toBits = y.toBits := by
    apply UInt64.toNat_inj.mp
    rw [Bool.eq_iff_iff, isNegative_iff, isNegative_iff] at hsign
    rw [magnitudeCode_eq, magnitudeCode_eq] at hcode
    have := toNat_toBits_lt x
    have := toNat_toBits_lt y
    omega
  exact Float.toBits_inj.mp hbits

theorem unpackExponent_eq_iff (b : BitVec format.numBits) :
    unpackExponent b = -1#11 ↔ infinityCode ≤ b.toNat % 2 ^ 63 := by
  have hb : b.toNat < 2 ^ 64 := b.isLt
  rw [← BitVec.toNat_inj, toNat_unpackExponent, infinityCode_eq]
  simp only [BitVec.reduceNeg, BitVec.reduceToNat]
  omega

theorem isFinite_unpack (b : BitVec format.numBits) :
    (UnpackedFloat.unpack format b).isFinite = true ↔ unpackExponent b ≠ -1#11 := by
  unfold UnpackedFloat.unpack
  dsimp only
  split
  · next h =>
    split <;> simp [UnpackedFloat.isFinite, h]
  · next h =>
    split
    · split <;> exact iff_of_true rfl h
    · exact iff_of_true rfl h

/-- Finite are the numbers with codes below that of the infinity. -/
theorem isFinite_iff (x : Float) : x.isFinite = true ↔ magnitudeCode x < infinityCode := by
  refine (isFinite_unpack x.toBits.toBitVec).trans ?_
  rw [Ne, unpackExponent_eq_iff, Nat.not_le]
  rfl

theorem pack_unpack_of_exponent {b : BitVec format.numBits} (h : unpackExponent b ≠ -1#11) :
    UnpackedFloat.pack format (UnpackedFloat.unpack format b) = b := by
  have hnan : isNaNBits b = false := decide_eq_false fun hb => h hb.1
  rw [pack_unpack b, hnan]
  rfl

/-- A code with a finite magnitude is that of the number made from it. -/
theorem toBits_ofBits {b : UInt64} (h : b.toNat % 2 ^ 63 < infinityCode) :
    (Float.ofBits b).toBits = b := by
  have hne : @unpackExponent format b.toBitVec ≠ -1#11 := fun he =>
    absurd ((unpackExponent_eq_iff b.toBitVec).mp he) (Nat.not_le.mpr h)
  exact congrArg UInt64.ofBitVec (pack_unpack_of_exponent hne)

theorem toNat_pack_neg {b : BitVec format.numBits} (h : unpackExponent b ≠ -1#11) :
    (UnpackedFloat.pack format (UnpackedFloat.unpack format b).neg).toNat =
      (b.toNat + 2 ^ 63) % 2 ^ 64 := by
  have hneg : UnpackedFloat.pack format (UnpackedFloat.unpack format b).neg =
      packComponents format (-(Sign.ofBitVec (unpackSign b))) (unpackExponent b)
        (unpackMantissa b) := by
    conv => lhs; rw [← packComponents_unpackSign_unpackExponent_unpackMantissa b]
    rw [neg_unpack_packComponents, pack_unpack_of_exponent (by rwa [unpackExponent_packComponents])]
  have hself := congrArg BitVec.toNat (packComponents_unpackSign_unpackExponent_unpackMantissa b)
  rw [toNat_packComponents] at hself
  rw [hneg, toNat_packComponents]
  have he : (unpackExponent b).toNat < 2 ^ 11 := (unpackExponent b).isLt
  have hm : (unpackMantissa b).toNat < 2 ^ 52 := (unpackMantissa b).isLt
  generalize Sign.ofBitVec (unpackSign b) = s at hself ⊢
  cases s with
  | positive =>
    rw [show Sign.positive.toBitVec.toNat = 0 from rfl] at hself
    rw [show (-Sign.positive).toBitVec.toNat = 1 from rfl]
    omega
  | negative =>
    rw [show Sign.negative.toBitVec.toNat = 1 from rfl] at hself
    rw [show (-Sign.negative).toBitVec.toNat = 0 from rfl]
    omega

theorem toNat_toBits_neg {x : Float} (h : x.isFinite) :
    (-x).toBits.toNat = (x.toBits.toNat + 2 ^ 63) % 2 ^ 64 :=
  toNat_pack_neg ((isFinite_unpack x.toBits.toBitVec).mp h)

theorem magnitudeCode_neg {x : Float} (h : x.isFinite) :
    magnitudeCode (-x) = magnitudeCode x := by
  rw [magnitudeCode_eq, magnitudeCode_eq, toNat_toBits_neg h]
  omega

theorem isNegative_neg {x : Float} (h : x.isFinite) : isNegative (-x) = !isNegative x := by
  have := toNat_toBits_lt x
  rw [Bool.eq_iff_iff, Bool.not_eq_true', ← Bool.not_eq_true, isNegative_iff, isNegative_iff,
    toNat_toBits_neg h]
  omega

theorem isFinite_neg {x : Float} (h : x.isFinite) : (-x).isFinite := by
  rw [isFinite_iff] at h ⊢
  rwa [magnitudeCode_neg ((isFinite_iff x).mpr h)]

theorem isFinite_withSign (negative : Bool) {x : Float} (h : x.isFinite) :
    (withSign negative x).isFinite := by
  unfold withSign
  split
  · exact isFinite_neg h
  · exact h

theorem isNaN_of_isFinite {x : Float} (h : x.isFinite) : x.isNaN = false := by
  have hmodel : ∀ y : UnpackedFloat, y.isFinite = true → y.isNaN = false := by
    intro y
    cases y <;> simp [UnpackedFloat.isFinite, UnpackedFloat.isNaN]
  exact hmodel _ h

theorem isInf_of_isFinite {x : Float} (h : x.isFinite) : x.isInf = false := by
  have hmodel : ∀ y : UnpackedFloat, y.isFinite = true → y.isInf = false := by
    intro y
    cases y <;> simp [UnpackedFloat.isFinite, UnpackedFloat.isInf]
  exact hmodel _ h

theorem neg_neg_of_isFinite {x : Float} (h : x.isFinite) : - -x = x := by
  apply eq_of_magnitudeCode_eq
  · rw [isNegative_neg (isFinite_neg h), isNegative_neg h, Bool.not_not]
  · rw [magnitudeCode_neg (isFinite_neg h), magnitudeCode_neg h]

end Equate.Number
