import Equate.Proofs.Number.Arithmetic
import Equate.Proofs.Number.RoundTrip
import Equate.Proofs.Number.Sign

/-!
# Values of numbers and their range

The codes of magnitudes count the binary64 numbers in order, and the code of the infinity stands for
the power of two above the largest of them. A quotient is rounded to a code at most exactly if it is
below the middle of the values of this code and the next, or is the middle and the code is even. All
that is said of rounding follows from this one comparison: it ends at nothing or at the infinity only
outside of the range of the numbers, and inside it stays next to the value.

So a product or quotient of positive finite numbers is one again exactly if its exact value lies in
the range: above half the least of them, and below the limit from which rounding ends at the infinity.
What is zero, infinite or undefined makes no product and no quotient positive and finite again. Within
the normal numbers rounding moves a value by one part in `2 ^ 53` at most.
-/
namespace Equate.Number

/-! ## Codes -/

/-- The value that a code stands for. -/
def codeValue (code : Nat) : ℚ := (magnitude code).1 * 2 ^ (magnitude code).2

/-- How far the value of the next code is. -/
def gap (code : Nat) : ℚ := 2 ^ (magnitude code).2

/-- The middle between the values of a code and of the next one. -/
def middle (code : Nat) : ℚ := codeValue code + gap code / 2

theorem gap_pos (code : Nat) : 0 < gap code := zpow_pos (by norm_num) _

theorem codeValue_succ (code : Nat) : codeValue (code + 1) = codeValue code + gap code := by
  have hsame : ∀ (m m' : Nat) (q : Int), m' = m + 1 →
      (m' : ℚ) * 2 ^ q = m * 2 ^ q + 2 ^ q := by
    rintro m _ q rfl
    push_cast
    ring
  unfold codeValue gap
  rcases magnitude_cases code with ⟨hlt, hmag⟩ | ⟨hge, hmag⟩ <;>
    rcases magnitude_cases (code + 1) with ⟨hlt', hmag'⟩ | ⟨hge', hmag'⟩ <;>
    rw [hmag, hmag'] <;> dsimp only
  · exact hsame _ _ _ rfl
  · rw [show (((code + 1) / 2 ^ 52 : Nat) : Int) - 1075 = -1074 by omega]
    exact hsame _ _ _ (by omega)
  · omega
  · rcases Nat.lt_or_ge (code % 2 ^ 52 + 1) (2 ^ 52) with hinside | hcarry
    · rw [show (code + 1) / 2 ^ 52 = code / 2 ^ 52 by omega]
      exact hsame _ _ _ (by omega)
    · -- The last mantissa of a binade: the next number is the power of two.
      rw [show (((code + 1) / 2 ^ 52 : Nat) : Int) - 1075 = ((code / 2 ^ 52 : Nat) : Int) - 1075 + 1 by omega,
        show (code + 1) % 2 ^ 52 = 0 by omega, show code % 2 ^ 52 = 2 ^ 52 - 1 by omega,
        zpow_add₀ (by norm_num)]
      push_cast
      ring

theorem strictMono_codeValue : StrictMono codeValue :=
  strictMono_nat_of_lt_succ fun code => by
    rw [codeValue_succ]
    exact lt_add_of_pos_right _ (gap_pos code)

theorem codeValue_zero : codeValue 0 = 0 := by
  have h : magnitude 0 = (0, -1074) := by decide
  rw [codeValue, h]
  simp

theorem inUnits_div (num : Nat) {den : Nat} (hden : 0 < den) (e : Int) :
    ((inUnits num den e).1 : ℚ) / (inUnits num den e).2 = num / den / 2 ^ e := by
  have hd : (den : ℚ) ≠ 0 := by exact_mod_cast hden.ne'
  unfold inUnits
  split
  · next he =>
    obtain ⟨i, rfl⟩ := Int.eq_ofNat_of_zero_le he
    show (num : ℚ) / ((den * 2 ^ i : Nat) : ℚ) = _
    push_cast
    rw [div_div, zpow_natCast]
  · next he =>
    obtain ⟨i, rfl⟩ : ∃ i : Nat, e = -i := ⟨(-e).toNat, by omega⟩
    show ((num * 2 ^ (- -(i : Int)).toNat : Nat) : ℚ) / den = _
    rw [neg_neg, Int.toNat_natCast, zpow_neg, zpow_natCast]
    push_cast
    rw [div_inv_eq_mul]
    ring

/-- A power of two is reached by a quotient that is not below it. -/
theorem reaches_iff_le {num den : Nat} (hden : 0 < den) (e : Int) :
    Reaches num den e ↔ (2 : ℚ) ^ e ≤ num / den := by
  have hpos : (0 : ℚ) < (inUnits num den e).2 := by exact_mod_cast inUnits_pos num hden e
  have hpow : (0 : ℚ) < 2 ^ e := zpow_pos (by norm_num) e
  rw [Reaches, ← Nat.cast_le (α := ℚ), ← one_le_div hpos, inUnits_div num hden, one_le_div hpow]

/-- A code is made up of the exponent and the mantissa of its magnitude. -/
theorem magnitude_spec (code : Nat) :
    code = ((magnitude code).2 + 1074).toNat * 2 ^ 52 + (magnitude code).1 ∧
      -1074 ≤ (magnitude code).2 ∧ (magnitude code).1 < 2 ^ 53 ∧
      (2 ^ 52 ≤ (magnitude code).1 ∨ (magnitude code).2 = -1074) := by
  rcases magnitude_cases code with ⟨hlt, hmag⟩ | ⟨hge, hmag⟩ <;> rw [hmag] <;> dsimp only <;> omega

/-- Counted in units of the place of a code, a quotient is rounded to its mantissa at most exactly
up to the middle. -/
theorem roundHalfEven_inUnits_le_iff (num : Nat) {den : Nat} (hden : 0 < den) (e : Int) (k : Nat) :
    roundHalfEven (inUnits num den e).1 (inUnits num den e).2 ≤ k ↔
      (num / den : ℚ) < (k + 1 / 2) * 2 ^ e ∨ (num / den : ℚ) = (k + 1 / 2) * 2 ^ e ∧ k % 2 = 0 := by
  have hpow : (0 : ℚ) < 2 ^ e := zpow_pos (by norm_num) e
  have hpos := inUnits_pos num hden e
  have hposq : (0 : ℚ) < (inUnits num den e).2 := by exact_mod_cast hpos
  have hunits := inUnits_div num hden e
  rw [roundHalfEven_le_iff _ hpos]
  generalize (inUnits num den e).1 = n at *
  generalize (inUnits num den e).2 = d at *
  have hvalue : (num / den : ℚ) = n / d * 2 ^ e := by rw [hunits, div_mul_cancel₀ _ hpow.ne']
  rw [hvalue, mul_lt_mul_iff_left₀ hpow, mul_left_inj' hpow.ne', div_lt_iff₀ hposq, div_eq_iff hposq.ne',
    ← Nat.cast_lt (α := ℚ), ← Nat.cast_inj (R := ℚ)]
  push_cast
  constructor
  · rintro (h | ⟨h, heven⟩)
    · exact .inl (by linarith)
    · exact .inr ⟨by linarith, heven⟩
  · rintro (h | ⟨h, heven⟩)
    · exact .inl (by linarith)
    · exact .inr ⟨by linarith, heven⟩

section
variable {m k : Nat} (t : Int)

theorem middle_lt_zpow (h : m < 2 ^ k) : ((m : ℚ) + 1 / 2) * 2 ^ t < 2 ^ (t + k) := by
  have hpow : (0 : ℚ) < 2 ^ t := zpow_pos (by norm_num) t
  have hm : ((m + 1 : Nat) : ℚ) ≤ ((2 ^ k : Nat) : ℚ) := Nat.cast_le.mpr h
  push_cast at hm
  rw [zpow_add₀ (by norm_num), mul_comm ((2 : ℚ) ^ t), mul_lt_mul_iff_left₀ hpow, zpow_natCast]
  linarith

theorem zpow_lt_middle (h : 2 ^ k ≤ m) : (2 : ℚ) ^ (t + k) < (m + 1 / 2) * 2 ^ t := by
  have hpow : (0 : ℚ) < 2 ^ t := zpow_pos (by norm_num) t
  have hm : ((2 ^ k : Nat) : ℚ) ≤ m := Nat.cast_le.mpr h
  push_cast at hm
  rw [zpow_add₀ (by norm_num), mul_comm ((2 : ℚ) ^ t), mul_lt_mul_iff_left₀ hpow, zpow_natCast]
  linarith

end

/-- A quotient is rounded to a code at most exactly if it is below the middle of the values of this
code and the next, or is the middle itself and the code is even. -/
theorem nearestCode_le_iff {num den code : Nat} (hden : 0 < den) (hcode : code < infinityCode) :
    nearestCode num den ≤ code ↔
      (num / den : ℚ) < middle code ∨ (num / den : ℚ) = middle code ∧ code % 2 = 0 := by
  obtain ⟨hsplit, hlow, hlt, hplace⟩ := magnitude_spec code
  have hmiddle : middle code = ((magnitude code).1 + 1 / 2) * 2 ^ (magnitude code).2 := by
    rw [middle, codeValue, gap]
    ring
  rw [hmiddle]
  generalize (magnitude code).1 = m at *
  generalize (magnitude code).2 = t at *
  rcases Nat.eq_zero_or_pos num with rfl | hnum
  · have hpow : (0 : ℚ) < 2 ^ t := zpow_pos (by norm_num) t
    rw [show nearestCode 0 den = 0 from if_pos rfl]
    refine iff_of_true (Nat.zero_le _) (.inl ?_)
    rw [Nat.cast_zero, zero_div]
    positivity
  have hlast : lastPlace num den = max (binade num den - 52) (-1074) := rfl
  obtain ⟨hreach, hnext⟩ := reaches_binade hnum hden
  obtain ⟨hcarry, hcount⟩ := roundHalfEven_lastPlace hnum hden
  have hround := roundHalfEven_inUnits_le_iff num hden (lastPlace num den) m
  rw [nearestCode_of_pos hnum rfl rfl, min_le_iff, or_iff_left (Nat.not_le.mpr hcode)]
  clear hcode
  generalize roundHalfEven _ _ = r at *
  rcases Int.lt_trichotomy t (lastPlace num den) with hbelow | rfl | habove
  · -- The place of the quotient is a larger one, and so is the quotient.
    have hfull : Reaches num den (t + 53) := hreach.mono (by omega)
    rw [reaches_iff_le hden] at hfull
    have hmid := (middle_lt_zpow t hlt).trans_le hfull
    refine iff_of_false (by omega) ?_
    rintro (h | ⟨h, -⟩)
    · exact lt_asymm h hmid
    · exact hmid.ne' h
  · rw [show code % 2 = m % 2 by omega, ← hround]
    omega
  · -- The place of the code is a larger one.
    have hsmall : ¬ Reaches num den (t + 52) := fun h => hnext (h.mono (by omega))
    rw [reaches_iff_le hden, not_le] at hsmall
    have hmid := zpow_lt_middle t (hplace.resolve_right (by omega))
    exact iff_of_true (by omega) (.inl (hsmall.trans hmid))

/-! ## Positive numbers -/

/-- A number that is positive and finite. -/
def IsPositive (x : Float) : Prop := x.isFinite = true ∧ 0 < x

instance (x : Float) : Decidable (IsPositive x) := by unfold IsPositive; infer_instance

/-- The value of a positive finite number. -/
def value (x : Float) : ℚ := codeValue (magnitudeCode x)

theorem isPositive_iff {x : Float} :
    IsPositive x ↔ isNegative x = false ∧ 0 < magnitudeCode x ∧ magnitudeCode x < infinityCode := by
  rw [IsPositive, isFinite_iff]
  constructor
  · rintro ⟨hfinite, hpos⟩
    refine ⟨isNegative_of_pos hpos, Nat.pos_of_ne_zero fun hzero => ?_, hfinite⟩
    have hx : x = 0 := eq_of_magnitudeCode_eq (isNegative_of_pos hpos) hzero
    rw [hx] at hpos
    exact absurd hpos (by decide)
  · rintro ⟨hsign, hcode, hfinite⟩
    refine ⟨hfinite, ?_⟩
    rw [pos_iff_of_unpack, unpack_eq ((isFinite_iff x).mpr hfinite) hsign hcode.ne']
    rfl

namespace IsPositive
variable {x y : Float}

theorem value_pos (h : IsPositive x) : 0 < value x := by
  rw [value, ← codeValue_zero, strictMono_codeValue.lt_iff_lt]
  exact (isPositive_iff.mp h).2.1

theorem value_inj (hx : IsPositive x) (hy : IsPositive y) : value x = value y ↔ x = y := by
  refine ⟨fun h => ?_, congrArg value⟩
  exact eq_of_magnitudeCode_eq ((isPositive_iff.mp hx).1.trans (isPositive_iff.mp hy).1.symm)
    (strictMono_codeValue.injective h)

end IsPositive

theorem isDyadic_iff {num den m : Nat} {q : Int} :
    IsDyadic num den m q ↔ 0 < den ∧ 0 < m ∧ (num / den : ℚ) = m * 2 ^ q := by
  refine and_congr_right fun hden => and_congr_right fun _ => ?_
  have hpow : (2 : ℚ) ^ q ≠ 0 := (zpow_pos (by norm_num) q).ne'
  have hpos : ((inUnits num den q).2 : ℚ) ≠ 0 := by exact_mod_cast (inUnits_pos num hden q).ne'
  rw [← div_eq_iff hpow, ← inUnits_div num hden, div_eq_iff hpos]
  exact_mod_cast Iff.rfl

theorem hasValue_iff {x : Float} {num den : Nat} :
    HasValue x num den ↔ IsPositive x ∧ 0 < den ∧ (num / den : ℚ) = value x := by
  constructor
  · intro h
    refine ⟨isPositive_iff.mpr ⟨h.positive, Nat.pos_of_ne_zero h.magnitudeCode_ne_zero,
      (isFinite_iff x).mp h.finite⟩, h.dyadic.1, (isDyadic_iff.mp h.dyadic).2.2⟩
  · rintro ⟨hx, hden, hvalue⟩
    obtain ⟨hsign, hcode, -⟩ := isPositive_iff.mp hx
    exact ⟨hx.1, hsign, isDyadic_iff.mpr ⟨hden, (inFormat_magnitude hcode.ne').pos, hvalue⟩⟩

/-! ## Rounding -/

/-- The number nearest to a rational number that is not negative. -/
def rounded (v : ℚ) : Float := nearest v.num.toNat v.den

section
variable {v : ℚ}

theorem num_toNat_div_den (hv : 0 ≤ v) : ((v.num.toNat : ℚ) / v.den : ℚ) = v := by
  have hnum : ((v.num.toNat : Nat) : ℚ) = v.num := by
    exact_mod_cast Int.toNat_of_nonneg (Rat.num_nonneg.mpr hv)
  rw [hnum, Rat.num_div_den]

theorem nearest_eq_rounded (num : Nat) {den : Nat} (hden : 0 < den) :
    nearest num den = rounded (num / den) := by
  generalize hv : (num / den : ℚ) = v
  have hratio := num_toNat_div_den (v := v) (by rw [← hv]; positivity)
  rw [← hv, div_eq_div_iff (by exact_mod_cast (Rat.den_pos _).ne') (by exact_mod_cast hden.ne'), hv] at hratio
  have hcross : num * v.den = v.num.toNat * den := by exact_mod_cast hratio.symm
  rw [rounded, nearest, nearest, nearestCode_congr hden v.den_pos hcross]

theorem magnitudeCode_rounded (v : ℚ) :
    magnitudeCode (rounded v) = nearestCode v.num.toNat v.den := by
  have hle := nearestCode_le v.num.toNat v.den
  rw [rounded, magnitudeCode_eq, toNat_toBits_nearest, Nat.mod_eq_of_lt]
  exact Nat.lt_of_le_of_lt hle (by decide)

theorem isNegative_rounded (v : ℚ) : isNegative (rounded v) = false := by
  have hle := nearestCode_le v.num.toNat v.den
  rw [← Bool.not_eq_true, isNegative_iff, rounded, toNat_toBits_nearest, Nat.not_le]
  exact Nat.lt_of_le_of_lt hle (by decide)

/-- A value is rounded to a code at most exactly up to the middle to the next number. -/
theorem magnitudeCode_rounded_le_iff (hv : 0 ≤ v) {code : Nat} (hcode : code < infinityCode) :
    magnitudeCode (rounded v) ≤ code ↔ v < middle code ∨ v = middle code ∧ code % 2 = 0 := by
  rw [magnitudeCode_rounded, nearestCode_le_iff v.den_pos hcode, num_toNat_div_den hv]

/-- A positive finite number is its own rounding. -/
theorem IsPositive.rounded_value {x : Float} (h : IsPositive x) : rounded (value x) = x := by
  have hvalue := hasValue_iff.mpr ⟨h, (value x).den_pos, num_toNat_div_den h.value_pos.le⟩
  exact nearest_of_isDyadic hvalue.finite hvalue.positive hvalue.dyadic

end

/-! ## The range -/

/-- A value that is rounded to a positive finite number. -/
def InRange (v : ℚ) : Prop := 2 ^ (-1075 : Int) < v ∧ v < overflowLimit

theorem middle_zero : middle 0 = 2 ^ (-1075 : Int) := by
  have h : magnitude 0 = (0, -1074) := by decide
  have hhalf : (2 : ℚ) ^ (-1075 + 1 : Int) = 2 ^ (-1075 : Int) * 2 := zpow_add_one₀ two_ne_zero _
  rw [middle, codeValue_zero, gap, h, zero_add, show (0, (-1074 : Int)).2 = -1075 + 1 from rfl, hhalf,
    mul_div_cancel_right₀ _ two_ne_zero]

theorem middle_largest : middle (infinityCode - 1) = overflowLimit := by
  have h : magnitude (infinityCode - 1) = (2 ^ 53 - 1, ((971 : Nat) : Int)) := rfl
  rw [middle, codeValue, gap, h, overflowLimit_eq, zpow_natCast, pow_succ (2 : ℚ) 970, Nat.cast_mul,
    Nat.cast_pow 2 970, Nat.cast_ofNat]
  generalize (2 : ℚ) ^ 970 = unit
  push_cast
  ring

variable {v : ℚ}

theorem magnitudeCode_rounded_le (v : ℚ) : magnitudeCode (rounded v) ≤ infinityCode := by
  rw [magnitudeCode_rounded]
  exact nearestCode_le _ _

theorem isPositive_rounded_iff (hv : 0 ≤ v) : IsPositive (rounded v) ↔ InRange v := by
  have hinfinity : infinityCode - 1 < infinityCode := by decide
  have hodd : (infinityCode - 1) % 2 = 1 := by decide
  have hzero : 0 < infinityCode := by decide
  have hlow := magnitudeCode_rounded_le_iff hv hzero
  have hhigh := magnitudeCode_rounded_le_iff hv hinfinity
  rw [middle_zero] at hlow
  rw [middle_largest, hodd] at hhigh
  rw [isPositive_iff, InRange]
  constructor
  · rintro ⟨-, hpos, hfinite⟩
    refine ⟨?_, (hhigh.mp (Nat.le_pred_of_lt hfinite)).resolve_right fun h => absurd h.2 (by decide)⟩
    by_contra h
    exact Nat.not_le.mpr hpos (hlow.mpr ((not_lt.mp h).lt_or_eq.imp_right fun heq => ⟨heq, rfl⟩))
  · rintro ⟨hpos, hfinite⟩
    refine ⟨isNegative_rounded v, Nat.not_le.mp fun h => ?_,
      Nat.lt_of_le_of_lt (hhigh.mpr (.inl hfinite)) hinfinity⟩
    exact not_le.mpr hpos ((hlow.mp h).elim le_of_lt fun h => h.1.le)

/-! ## Products and quotients -/

namespace IsPositive
variable {x y : Float} (hx : IsPositive x) (hy : IsPositive y)
include hx

theorem hasValue : HasValue x (value x).num.toNat (value x).den :=
  hasValue_iff.mpr ⟨hx, (value x).den_pos, num_toNat_div_den hx.value_pos.le⟩

include hy

theorem mul_eq : x * y = rounded (value x * value y) := by
  rw [HasValue.mul_eq hx.hasValue hy.hasValue,
    nearest_eq_rounded _ (Nat.mul_pos (value x).den_pos (value y).den_pos)]
  push_cast
  rw [mul_div_mul_comm, num_toNat_div_den hx.value_pos.le, num_toNat_div_den hy.value_pos.le]

theorem div_eq : x / y = rounded (value x / value y) := by
  have hnum : 0 < (value y).num.toNat := hy.hasValue.dyadic.num_pos
  rw [HasValue.div_eq hx.hasValue hy.hasValue,
    nearest_eq_rounded _ (Nat.mul_pos (value x).den_pos hnum)]
  push_cast
  rw [mul_div_mul_comm, num_toNat_div_den hx.value_pos.le, ← inv_div ((value y).num.toNat : ℚ),
    num_toNat_div_den hy.value_pos.le, ← div_eq_mul_inv]

theorem isPositive_mul_iff : IsPositive (x * y) ↔ InRange (value x * value y) := by
  rw [hx.mul_eq hy, isPositive_rounded_iff (mul_nonneg hx.value_pos.le hy.value_pos.le)]

theorem isPositive_div_iff : IsPositive (x / y) ↔ InRange (value x / value y) := by
  rw [hx.div_eq hy, isPositive_rounded_iff (div_nonneg hx.value_pos.le hy.value_pos.le)]

end IsPositive

/-! ## Zero, infinite and undefined numbers -/

section
open Float.Model Float.Model.UnpackedFloat

/-- An unpacked number without a minus sign that is zero, infinite or undefined. -/
def Degenerate (u : UnpackedFloat) : Prop :=
  u = .notANumber ∨ u = .infinity .positive ∨ u = .zero .positive

namespace Degenerate
variable {u v : UnpackedFloat}

theorem mul_left (hu : Degenerate u) (hv : Unsigned v) : Degenerate (UnpackedFloat.mul format u v) := by
  rcases hu with rfl | rfl | rfl <;> cases v <;> cases hv <;>
    first | exact .inl rfl | exact .inr (.inl rfl) | exact .inr (.inr rfl)

theorem mul_right (hu : Unsigned u) (hv : Degenerate v) : Degenerate (UnpackedFloat.mul format u v) := by
  rcases hv with rfl | rfl | rfl <;> cases u <;> cases hu <;>
    first | exact .inl rfl | exact .inr (.inl rfl) | exact .inr (.inr rfl)

theorem div_left (hu : Degenerate u) (hv : Unsigned v) : Degenerate (UnpackedFloat.div format u v) := by
  rcases hu with rfl | rfl | rfl <;> cases v <;> cases hv <;>
    first | exact .inl rfl | exact .inr (.inl rfl) | exact .inr (.inr rfl)

theorem div_right (hu : Unsigned u) (hv : Degenerate v) : Degenerate (UnpackedFloat.div format u v) := by
  rcases hv with rfl | rfl | rfl <;> cases u <;> cases hu <;>
    first | exact .inl rfl | exact .inr (.inl rfl) | exact .inr (.inr rfl)

theorem not_isPositive (hu : Degenerate u) : ¬IsPositive ⟨Float.Model.pack u⟩ := by
  rcases hu with rfl | rfl | rfl <;> decide

end Degenerate

section
variable {x y : Float} (hx : isNegative x = false)
include hx

/-- A number without a minus sign that is not positive and finite is zero, infinite or undefined. -/
theorem degenerate_of_not_isPositive (h : ¬IsPositive x) : Degenerate x.toModel.unpack := by
  have hunsigned := unsigned_unpack hx
  cases hunpack : x.toModel.unpack with
  | notANumber => exact .inl rfl
  | infinity s => rw [hunpack] at hunsigned; cases hunsigned; exact .inr (.inl rfl)
  | zero s => rw [hunpack] at hunsigned; cases hunsigned; exact .inr (.inr rfl)
  | finite s m e hm =>
    rw [hunpack] at hunsigned
    cases hunsigned
    refine absurd ⟨?_, ?_⟩ h
    · show x.toModel.unpack.isFinite = true
      rw [hunpack]
      rfl
    · rw [pos_iff_of_unpack, hunpack]
      rfl

variable (hy : isNegative y = false)
include hy

/-- Only positive finite numbers have a positive finite product. -/
theorem isPositive_of_mul (h : IsPositive (x * y)) : IsPositive x ∧ IsPositive y := by
  refine ⟨Classical.byContradiction fun hnot => ?_, Classical.byContradiction fun hnot => ?_⟩
  · exact ((degenerate_of_not_isPositive hx hnot).mul_left (unsigned_unpack hy)).not_isPositive h
  · exact (Degenerate.mul_right (unsigned_unpack hx)
      (degenerate_of_not_isPositive hy hnot)).not_isPositive h

/-- Only positive finite numbers have a positive finite quotient. -/
theorem isPositive_of_div (h : IsPositive (x / y)) : IsPositive x ∧ IsPositive y := by
  refine ⟨Classical.byContradiction fun hnot => ?_, Classical.byContradiction fun hnot => ?_⟩
  · exact ((degenerate_of_not_isPositive hx hnot).div_left (unsigned_unpack hy)).not_isPositive h
  · exact (Degenerate.div_right (unsigned_unpack hx)
      (degenerate_of_not_isPositive hy hnot)).not_isPositive h

end

end

/-! ## The error of rounding -/

theorem gap_le {code : Nat} (hcode : 2 ^ 52 ≤ code) : gap code ≤ 2 ^ (-52 : Int) * codeValue code := by
  obtain ⟨hsplit, -, hlt, hplace⟩ := magnitude_spec code
  have hfull : 2 ^ 52 ≤ (magnitude code).1 := by omega
  have hm : ((2 ^ 52 : Nat) : ℚ) ≤ (magnitude code).1 := Nat.cast_le.mpr hfull
  push_cast at hm
  rw [gap, codeValue, ← mul_assoc]
  refine le_mul_of_one_le_left (gap_pos code).le ?_
  rw [zpow_neg, zpow_ofNat, ← div_eq_inv_mul, one_le_div (by positivity)]
  exact hm

/-- The least value from which on numbers have all their bits. -/
def leastNormal : ℚ := 2 ^ (-1022 : Int)

theorem leastNormal_pos : 0 < leastNormal := zpow_pos two_pos _

/-- Between the least normal number and its reciprocal nothing leaves the range. -/
theorem inRange_of_normal (hlow : leastNormal ≤ v) (hhigh : v ≤ leastNormal⁻¹) : InRange v := by
  have hlimit : 2 ^ 1022 < overflowLimit := by
    have hsplit : 2 ^ 1022 = 2 ^ 52 * 2 ^ 970 := by rw [← Nat.pow_add]
    rw [overflowLimit_eq, hsplit]
    exact Nat.mul_lt_mul_of_pos_right (by norm_num) (by positivity)
  have hinv : leastNormal⁻¹ = ((2 ^ 1022 : Nat) : ℚ) := by
    rw [leastNormal, ← zpow_neg, neg_neg, Nat.cast_pow, Nat.cast_ofNat]
    exact zpow_natCast 2 1022
  refine ⟨lt_of_lt_of_le ?_ hlow, lt_of_le_of_lt hhigh ?_⟩
  · exact zpow_lt_zpow_right₀ one_lt_two (by decide)
  · rw [hinv]
    exact Nat.cast_lt.mpr hlimit

theorem codeValue_leastNormal : codeValue (2 ^ 52) = leastNormal := by
  have h : magnitude (2 ^ 52) = (2 ^ 52, -1074) := rfl
  rw [codeValue, h, leastNormal, Nat.cast_pow, Nat.cast_ofNat, ← zpow_natCast, ← zpow_add₀ (by norm_num)]
  norm_num

theorem le_magnitudeCode_rounded {code : Nat} (hcode : code ≤ infinityCode) (h : codeValue code ≤ v) :
    code ≤ magnitudeCode (rounded v) := by
  rcases Nat.eq_zero_or_pos code with rfl | hpos
  · exact Nat.zero_le _
  · have hv : 0 ≤ v := le_trans (codeValue_zero ▸ strictMono_codeValue.monotone (Nat.zero_le code)) h
    by_contra hlt
    have hpred : code - 1 < infinityCode := by omega
    have hbelow := (magnitudeCode_rounded_le_iff hv hpred).mp (by omega)
    have hmiddle : middle (code - 1) < codeValue code := by
      have hgap := gap_pos (code - 1)
      have hnext := codeValue_succ (code - 1)
      rw [Nat.sub_add_cancel hpos] at hnext
      rw [middle, hnext]
      linarith
    rcases hbelow with hlt | ⟨heq, -⟩ <;> linarith

/-- Rounding moves a value by half the distance to the neighbours at most. -/
theorem abs_value_rounded_sub_le (hv : leastNormal ≤ v) (h : IsPositive (rounded v)) :
    |value (rounded v) - v| ≤ 2 ^ (-53 : Int) * v := by
  obtain ⟨-, -, hfinite⟩ := isPositive_iff.mp h
  have hcode : 2 ^ 52 ≤ infinityCode := by decide
  have hnormal := le_magnitudeCode_rounded hcode (codeValue_leastNormal ▸ hv)
  have hhalf : (2 : ℚ) ^ (-52 : Int) = 2 * 2 ^ (-53 : Int) := by norm_num
  have hpow : (0 : ℚ) < 2 ^ (-53 : Int) := zpow_pos (by norm_num) _
  have hpred : magnitudeCode (rounded v) - 1 < infinityCode := by omega
  have hnonneg : 0 ≤ v := leastNormal_pos.le.trans hv
  have habove := (magnitudeCode_rounded_le_iff hnonneg hfinite).mp le_rfl
  have hbelow := mt (magnitudeCode_rounded_le_iff hnonneg hpred).mpr (by omega)
  rw [value]
  generalize magnitudeCode (rounded v) = code at *
  obtain ⟨pred, rfl⟩ : ∃ pred, code = pred + 1 := ⟨code - 1, by omega⟩
  rw [Nat.add_sub_cancel, not_or, not_lt] at hbelow
  have hlower := hbelow.1
  rw [middle] at habove hlower
  rcases le_total (codeValue (pred + 1)) v with hle | hge
  · have hgap := gap_le hnormal
    have hupper : v - codeValue (pred + 1) ≤ gap (pred + 1) / 2 := by
      rcases habove with h | ⟨h, -⟩ <;> linarith only [h]
    have hscaled := mul_le_mul_of_nonneg_left hle hpow.le
    rw [hhalf, mul_assoc] at hgap
    rw [abs_of_nonpos (sub_nonpos.mpr hle)]
    linarith only [hgap, hupper, hscaled]
  · have hnext := codeValue_succ pred
    rw [abs_of_nonneg (sub_nonneg.mpr hge)]
    rcases Nat.lt_or_eq_of_le hnormal with hlarge | hleast
    · have hgap := gap_le (Nat.le_of_lt_succ hlarge)
      have hpos := gap_pos pred
      have hbefore : codeValue pred ≤ v := by linarith only [hlower, hpos]
      have hscaled := mul_le_mul_of_nonneg_left hbefore hpow.le
      rw [hhalf, mul_assoc] at hgap
      linarith only [hgap, hlower, hnext, hscaled]
    · -- The least normal number: the value is not below it.
      rw [← hleast, codeValue_leastNormal] at hge ⊢
      have heq : v = leastNormal := le_antisymm hge hv
      rw [heq, sub_self]
      exact (mul_pos hpow leastNormal_pos).le

end Equate.Number
