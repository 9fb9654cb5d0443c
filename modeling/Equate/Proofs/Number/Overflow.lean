import Mathlib
import Equate.Number.Decimal
import Equate.Proofs.Number.Binary64
import Equate.Proofs.Number.Exact

/-!
# Literals that are too large

Rounding leaves the finite numbers exactly from the middle between the largest of them and
the power of two above it: the middle itself is a tie, and its even neighbour is the power.
A literal is read as a finite number below this limit, as an infinity from there on, and
never as the undefined number, however many digits it has.
-/
namespace Equate
open Number

namespace Number

/-- From here on a quotient is rounded to the infinity. -/
def overflowLimit : Nat := 2 ^ 1024 - 2 ^ 970

theorem overflowLimit_eq : overflowLimit = (2 ^ 54 - 1) * 2 ^ 970 := by decide +kernel

/-- A count is not passed by rounding up to half a unit above it, and there if it is even. -/
theorem roundHalfEven_le_iff (num : Nat) {den k : Nat} (hden : 0 < den) :
    roundHalfEven num den ≤ k ↔
      2 * num < (2 * k + 1) * den ∨ 2 * num = (2 * k + 1) * den ∧ k % 2 = 0 := by
  have hsplit := Nat.div_add_mod num den
  have hrest := Nat.mod_lt num hden
  unfold roundHalfEven
  generalize num / den = q at *
  generalize num % den = rest at *
  subst hsplit
  rcases Nat.lt_trichotomy q k with hbelow | rfl | habove
  · obtain ⟨i, rfl⟩ : ∃ i, k = q + 1 + i := ⟨k - (q + 1), by omega⟩
    have hmul : (2 * (q + 1 + i) + 1) * den = 2 * (den * q) + 3 * den + 2 * (den * i) := by ring
    rw [hmul]
    dsimp only
    split_ifs <;> omega
  · have hmul : (2 * q + 1) * den = 2 * (den * q) + den := by ring
    rw [hmul]
    dsimp only
    split_ifs <;> omega
  · obtain ⟨i, rfl⟩ : ∃ i, q = k + 1 + i := ⟨q - (k + 1), by omega⟩
    have hmul : 2 * (den * (k + 1 + i)) = (2 * k + 1) * den + den + 2 * (den * i) := by ring
    dsimp only
    rw [Nat.mul_add, hmul]
    split_ifs <;> omega

/-- An even count is reached by rounding from half a unit below it. -/
theorem roundHalfEven_lt_iff (num : Nat) {den k : Nat} (hden : 0 < den) (heven : k % 2 = 0) :
    roundHalfEven num den < k ↔ 2 * num < (2 * k - 1) * den := by
  cases k with
  | zero => simp
  | succ k =>
    have hodd : ¬ k % 2 = 0 := by omega
    rw [Nat.lt_succ_iff, roundHalfEven_le_iff num hden, show 2 * (k + 1) - 1 = 2 * k + 1 by omega]
    simp only [hodd, and_false, or_false]

theorem roundHalfEven_bounds (num den : Nat) :
    num / den ≤ roundHalfEven num den ∧ roundHalfEven num den ≤ num / den + 1 := by
  unfold roundHalfEven
  dsimp only
  split_ifs <;> omega

/-- The count of units of the last place has as many bits as the format keeps, or it is that
of a small number, or rounding carried. -/
theorem roundHalfEven_lastPlace {num den : Nat} (hnum : 0 < num) (hden : 0 < den) :
    let count := roundHalfEven (inUnits num den (lastPlace num den)).1
      (inUnits num den (lastPlace num den)).2
    count ≤ 2 ^ 53 ∧ (2 ^ 52 ≤ count ∨ lastPlace num den = -1074) := by
  have hlast : lastPlace num den = max (binade num den - 52) (-1074) := rfl
  have hpos := inUnits_pos num hden (lastPlace num den)
  obtain ⟨hreach, hnext⟩ := reaches_binade hnum hden
  obtain ⟨hlow, hhigh⟩ := roundHalfEven_bounds (inUnits num den (lastPlace num den)).1
    (inUnits num den (lastPlace num den)).2
  have hbelow : ¬ Reaches num den (lastPlace num den + (53 : Nat)) :=
    fun h => hnext (h.mono (by omega))
  rw [reaches_add_iff, ← Nat.le_div_iff_mul_le hpos] at hbelow
  refine ⟨by omega, ?_⟩
  rcases Int.lt_or_le (-1074) (lastPlace num den) with hnormal | hsmall
  · have hfull : Reaches num den (lastPlace num den + (52 : Nat)) := hreach.mono (by omega)
    rw [reaches_add_iff, ← Nat.le_div_iff_mul_le hpos] at hfull
    exact .inl (Nat.le_trans hfull hlow)
  · exact .inr (by omega)

/-- A quotient has a finite nearest number exactly below the limit. -/
theorem nearestCode_lt_iff {num den : Nat} (hden : 0 < den) :
    nearestCode num den < infinityCode ↔ num < overflowLimit * den := by
  rcases Nat.eq_zero_or_pos num with rfl | hnum
  · rw [show nearestCode 0 den = 0 from if_pos rfl]
    exact iff_of_true (by decide) (Nat.mul_pos (by decide +kernel) hden)
  · obtain ⟨hreach, hnot⟩ := reaches_binade hnum hden
    obtain ⟨hcarry, hcount⟩ := roundHalfEven_lastPlace hnum hden
    have hlast : lastPlace num den = max (binade num den - 52) (-1074) := rfl
    rw [nearestCode_of_pos hnum rfl rfl, infinityCode_eq, overflowLimit_eq]
    rcases Int.lt_trichotomy (lastPlace num den) 971 with hlow | hlimit | hhigh
    · -- The binade ends below the limit, and the carry stays within the codes.
      have hbelow : ¬ Reaches num den 1023 := fun h => hnot (h.mono (by omega))
      rw [reaches_iff (k := 0) (by omega), Nat.not_le, Nat.pow_zero, Nat.mul_one] at hbelow
      refine iff_of_true (by omega) (Nat.lt_of_lt_of_le hbelow ?_)
      rw [Nat.mul_comm]
      exact Nat.mul_le_mul_right den (by decide +kernel)
    · -- The last binade: rounding decides.
      have hplace : (lastPlace num den).toNat = 970 + 1 := by omega
      have hscaled : ∀ i, (2 * 2 ^ 53 - 1) * (den * 2 ^ (i + 1)) = 2 * ((2 ^ 54 - 1) * 2 ^ i * den) :=
        fun i => by ring
      have hpos : 0 < den * 2 ^ (lastPlace num den).toNat := Nat.mul_pos hden (Nat.two_pow_pos _)
      have hround := roundHalfEven_lt_iff num (k := 2 ^ 53) hpos (by decide)
      rw [hplace, hscaled, ← hplace] at hround
      rw [inUnits_of_nonneg (by omega)]
      dsimp only
      omega
    · -- Beyond it the count alone fills the codes.
      have habove : Reaches num den 1024 := hreach.mono (by omega)
      rw [reaches_iff (k := 0) (by omega), Nat.pow_zero, Nat.mul_one] at habove
      refine iff_of_false (by omega) (Nat.not_lt.mpr (Nat.le_trans ?_ habove))
      rw [Nat.mul_comm den]
      exact Nat.mul_le_mul_right den (by decide +kernel)

theorem nearestCode_le (num den : Nat) : nearestCode num den ≤ infinityCode := by
  unfold nearestCode
  split
  · exact Nat.zero_le _
  · exact Nat.min_le_right _ _

/-- From here on a quotient is rounded to one of the three largest numbers, or the infinity. -/
def nearLimit : Nat := (2 ^ 53 - 3) * 2 ^ 971

theorem infinityCode_le_nearestCode {num den : Nat} (hden : 0 < den) (h : nearLimit * den ≤ num) :
    infinityCode ≤ nearestCode num den + 3 := by
  have hnum : 0 < num := Nat.lt_of_lt_of_le (Nat.mul_pos (by decide +kernel) hden) h
  have hlarge : Reaches num den 1023 := by
    rw [reaches_iff (k := 0) (by omega), Nat.pow_zero, Nat.mul_one, Nat.mul_comm]
    exact Nat.le_trans (Nat.mul_le_mul_right den (by decide +kernel)) h
  obtain ⟨-, hnext⟩ := reaches_binade hnum hden
  obtain ⟨-, hcount⟩ := roundHalfEven_lastPlace hnum hden
  have hlast : lastPlace num den = max (binade num den - 52) (-1074) := rfl
  have hbinade : 1023 ≤ binade num den := by
    by_contra hbelow
    exact hnext (hlarge.mono (by omega))
  rw [nearestCode_of_pos hnum rfl rfl, infinityCode_eq]
  rcases Int.lt_or_eq_of_le (show 971 ≤ lastPlace num den by omega) with hhigh | hplace
  · omega
  · obtain ⟨i, hi⟩ : ∃ i : Nat, i = 971 := ⟨_, rfl⟩
    have hplace' : lastPlace num den = (i : Int) := by omega
    have hlow := (roundHalfEven_bounds num (den * 2 ^ i)).1
    have hquotient : 2 ^ 53 - 3 ≤ num / (den * 2 ^ i) := by
      rw [Nat.le_div_iff_mul_le (Nat.mul_pos hden (Nat.two_pow_pos i))]
      calc
        (2 ^ 53 - 3) * (den * 2 ^ i) = (2 ^ 53 - 3) * 2 ^ i * den := by ring
        _ = nearLimit * den := by rw [hi, nearLimit]
        _ ≤ num := h
    rw [hplace', inUnits_of_nonneg (Int.natCast_nonneg i), Int.toNat_natCast]
    dsimp only
    omega

theorem toNat_toBits_ofBits {code : Nat} (h : code < infinityCode) :
    (Float.ofBits code.toUInt64).toBits.toNat = code := by
  rw [infinityCode_eq] at h
  have hcode : code.toUInt64.toNat = code := by
    rw [Nat.toUInt64, UInt64.toNat_ofNat']
    omega
  rw [toBits_ofBits, hcode]
  rw [hcode, infinityCode_eq]
  omega

theorem magnitudeCode_ofBits {code : Nat} (h : code < infinityCode) :
    magnitudeCode (Float.ofBits code.toUInt64) = code := by
  rw [magnitudeCode_eq, toNat_toBits_ofBits h, Nat.mod_eq_of_lt (Nat.lt_trans h (by decide))]

theorem not_isFinite_infinity : (Float.ofBits infinityCode.toUInt64).isFinite = false := by
  decide +kernel

theorem isFinite_nearest_iff (num : Nat) {den : Nat} (hden : 0 < den) :
    (nearest num den).isFinite = true ↔ num < overflowLimit * den := by
  rw [← nearestCode_lt_iff hden, isFinite_iff, nearest]
  rcases Nat.lt_or_eq_of_le (nearestCode_le num den) with hlt | heq
  · rw [magnitudeCode_ofBits hlt]
  · rw [heq, ← isFinite_iff, not_isFinite_infinity]
    exact iff_of_false Bool.false_ne_true (Nat.lt_irrefl _)

/-- Rounding ends at a finite number or at the infinity. -/
theorem nearest_cases (num : Nat) {den : Nat} (hden : 0 < den) :
    (num < overflowLimit * den ∧ (nearest num den).isFinite = true) ∨
      (overflowLimit * den ≤ num ∧ nearest num den = Float.ofBits infinityCode.toUInt64) := by
  rcases Nat.lt_or_ge num (overflowLimit * den) with hlt | hge
  · exact .inl ⟨hlt, (isFinite_nearest_iff num hden).mpr hlt⟩
  · have hcode := Nat.not_lt.mp (mt (nearestCode_lt_iff hden).mp (Nat.not_lt.mpr hge))
    exact .inr ⟨hge, by rw [nearest, Nat.le_antisymm (nearestCode_le num den) hcode]⟩

/-- Less than half a unit is nothing. -/
theorem roundHalfEven_of_lt {num den : Nat} (h : 2 * num < den) : roundHalfEven num den = 0 := by
  have hlt : num < den := by omega
  rw [roundHalfEven, Nat.div_eq_of_lt hlt, Nat.mod_eq_of_lt hlt]
  exact if_pos h

/-- A quotient below half the least positive number is rounded to nothing. -/
theorem nearestCode_of_small {num den k : Nat} (hden : 0 < den) (hk : 1075 ≤ k)
    (h : num * 2 ^ k < den) : nearestCode num den = 0 := by
  rcases Nat.eq_zero_or_pos num with rfl | hnum
  · exact if_pos rfl
  · have hbelow : ¬ Reaches num den (-1075) := by
      rw [reaches_iff (k := k) (by omega), Nat.not_le]
      exact Nat.lt_of_lt_of_le h (Nat.le_mul_of_pos_right den (Nat.two_pow_pos _))
    obtain ⟨hreach, -⟩ := reaches_binade hnum hden
    have hbinade : binade num den < -1075 := by
      by_contra hge
      exact hbelow (hreach.mono (by omega))
    have hplace : lastPlace num den = -1074 := by
      unfold lastPlace
      omega
    have hcount : roundHalfEven (inUnits num den (-1074)).1 (inUnits num den (-1074)).2 = 0 := by
      obtain ⟨i, hi⟩ : ∃ i, (- -1074 : Int).toNat = i := ⟨_, rfl⟩
      apply roundHalfEven_of_lt
      rw [inUnits, if_neg (by decide), hi]
      calc
        2 * (num * 2 ^ i) = num * 2 ^ (i + 1) := by rw [Nat.pow_succ', Nat.mul_left_comm]
        _ ≤ num * 2 ^ k := Nat.mul_le_mul_left num (Nat.pow_le_pow_right (by decide) (by omega))
        _ < den := h
    rw [nearestCode_of_pos hnum hplace hcount]
    rfl

end Number

namespace Decimal

/-- Reading a decimal gives the nearest number; the shortcuts for very large and very small
decimals change nothing. -/
theorem toFloat_eq (d : Decimal) :
    d.toFloat = nearest (d.digits * 10 ^ d.exponent.toNat) (10 ^ (-d.exponent).toNat) := by
  have hden : 0 < 10 ^ (-d.exponent).toNat := Nat.pow_pos (by decide)
  unfold toFloat
  split
  · next hzero =>
    rw [hzero, Nat.zero_mul, nearest, show nearestCode 0 _ = 0 from if_pos rfl]
    rfl
  · next hdigits =>
    split
    · next hlarge =>
      have hover : infinityCode ≤ nearestCode (d.digits * 10 ^ d.exponent.toNat)
          (10 ^ (-d.exponent).toNat) := by
        rw [← Nat.not_lt, nearestCode_lt_iff hden, Nat.not_lt,
          show (-d.exponent).toNat = 0 by omega, Nat.pow_zero, Nat.mul_one]
        calc
          overflowLimit ≤ 10 ^ 310 := by decide +kernel
          _ ≤ 10 ^ d.exponent.toNat := Nat.pow_le_pow_right (by decide) (by omega)
          _ ≤ d.digits * 10 ^ d.exponent.toNat :=
            Nat.le_mul_of_pos_left _ (Nat.pos_of_ne_zero hdigits)
      rw [nearest, Nat.le_antisymm (nearestCode_le _ _) hover]
    · split
      · next hsmall =>
        rw [nearest, nearestCode_of_small (k := 3 * (-d.exponent).toNat - (d.digits.log2 + 1)) hden
          (by omega)]
        · rfl
        · rw [show d.exponent.toNat = 0 by omega, Nat.pow_zero, Nat.mul_one]
          calc
            d.digits * 2 ^ (3 * (-d.exponent).toNat - (d.digits.log2 + 1))
              < 2 ^ (d.digits.log2 + 1) * 2 ^ (3 * (-d.exponent).toNat - (d.digits.log2 + 1)) :=
                (Nat.mul_lt_mul_right (Nat.two_pow_pos _)).mpr Nat.lt_log2_self
            _ = 2 ^ (3 * (-d.exponent).toNat) := by
              rw [← Nat.pow_add, Nat.add_sub_cancel' (by omega)]
            _ = 8 ^ (-d.exponent).toNat := Nat.pow_mul 2 3 _
            _ ≤ 10 ^ (-d.exponent).toNat := Nat.pow_le_pow_left (by decide) _
      · split
        · next hexp =>
          rw [show (-d.exponent).toNat = 0 by omega]
          rfl
        · next hexp =>
          rw [show d.exponent.toNat = 0 by omega, Nat.pow_zero, Nat.mul_one]
          rfl

/-- Decimals of the same value give the same number. -/
theorem toFloat_congr {d d' : Decimal}
    (h : d.digits * 10 ^ d.exponent.toNat * 10 ^ (-d'.exponent).toNat =
      d'.digits * 10 ^ d'.exponent.toNat * 10 ^ (-d.exponent).toNat) : d.toFloat = d'.toFloat := by
  rw [toFloat_eq, toFloat_eq, nearest, nearest,
    nearestCode_congr (Nat.pow_pos (by decide)) (Nat.pow_pos (by decide)) h]

/-- The decimal is too large for a finite number. -/
def Overflows (d : Decimal) : Prop :=
  overflowLimit * 10 ^ (-d.exponent).toNat ≤ d.digits * 10 ^ d.exponent.toNat

instance (d : Decimal) : Decidable d.Overflows := Nat.decLe _ _

theorem toFloat_cases (d : Decimal) :
    (¬ d.Overflows ∧ d.toFloat.isFinite = true) ∨
      (d.Overflows ∧ d.toFloat = Float.ofBits infinityCode.toUInt64) := by
  have hcases := nearest_cases (d.digits * 10 ^ d.exponent.toNat)
    (Nat.pow_pos (n := (-d.exponent).toNat) (by decide : 0 < 10))
  rw [← toFloat_eq] at hcases
  unfold Overflows
  rwa [Nat.not_le]

end Decimal

namespace Number

/-- A signed literal that denotes a decimal too large for a finite number. -/
def Overflows (literal : Text) : Prop := ∃ d ∈ Decimal.read? (readSign literal).2, d.Overflows

instance (literal : Text) : Decidable (Overflows literal) :=
  inferInstanceAs (Decidable (∃ d ∈ Decimal.read? (readSign literal).2, d.Overflows))

theorem readSigned?_cases {literal : Text} {x : Float} (h : readSigned? literal = some x) :
    (¬ Overflows literal ∧ x.isFinite = true) ∨
      (Overflows literal ∧ x = withSign (readSign literal).1 (Float.ofBits infinityCode.toUInt64)) := by
  obtain ⟨y, hy, rfl⟩ := Option.map_eq_some_iff.mp
    (show (readLiteral? (readSign literal).2).map (withSign (readSign literal).1) = some x from h)
  obtain ⟨d, hd, rfl⟩ := Option.map_eq_some_iff.mp hy
  have hoverflows : Overflows literal ↔ d.Overflows := by
    unfold Overflows
    rw [hd]
    simp
  rw [hoverflows]
  rcases d.toFloat_cases with ⟨hwithin, hfinite⟩ | ⟨hoverflows, hinfinite⟩
  · exact .inl ⟨hwithin, isFinite_withSign _ hfinite⟩
  · exact .inr ⟨hoverflows, congrArg _ hinfinite⟩

/-- A literal denotes a finite number exactly if it is not too large. -/
theorem isFinite_readSigned?_iff {literal : Text} {x : Float} (h : readSigned? literal = some x) :
    x.isFinite = true ↔ ¬ Overflows literal := by
  rcases readSigned?_cases h with ⟨hwithin, hfinite⟩ | ⟨hoverflows, rfl⟩
  · exact iff_of_true hfinite hwithin
  · refine iff_of_false ?_ (not_not.mpr hoverflows)
    cases (readSign literal).1 <;> decide +kernel

/-- No literal denotes the undefined number. -/
theorem isNaN_readSigned? {literal : Text} {x : Float} (h : readSigned? literal = some x) :
    x.isNaN = false := by
  rcases readSigned?_cases h with ⟨-, hfinite⟩ | ⟨-, rfl⟩
  · exact isNaN_of_isFinite hfinite
  · cases (readSign literal).1 <;> decide +kernel

end Number
end Equate
