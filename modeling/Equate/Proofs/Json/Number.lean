import Equate.Proofs.Json.Numeral
import Equate.Proofs.Number.Arithmetic

/-!
# Numbers read from their digits

The reader converts a mantissa and then multiplies or divides once by a power of ten. Where
both are exact only this last step rounds, and the number read is the nearest one. That is
so for mantissas up to `2 ^ 53` and powers of ten up to the twenty-second.
-/
namespace Equate.Json.Numeral
open Number Text

/-! ## Digits -/

theorem le_ofDigitChars (digits : Text) (m : Nat) : m ≤ Nat.ofDigitChars 10 digits m := by
  rw [Nat.ofDigitChars_eq_ofDigitChars_zero]
  exact Nat.le_trans (Nat.le_mul_of_pos_left m (Nat.pow_pos (by decide))) (Nat.le_add_right _ _)

/-- Digits that fit are all absorbed. -/
theorem absorb_of_le {digits : Text} {m : Nat} (h : Nat.ofDigitChars 10 digits m ≤ mantissaLimit) :
    absorb m digits = (Nat.ofDigitChars 10 digits m, []) := by
  induction digits generalizing m with
  | nil => rfl
  | cons c digits ih =>
    have hcons : Nat.ofDigitChars 10 (c :: digits) m =
        Nat.ofDigitChars 10 digits (Nat.ofDigitChars 10 [c] m) := rfl
    rw [hcons] at h ⊢
    rw [absorb, if_pos (Nat.le_trans (le_ofDigitChars digits _) h), ih h]

/-- The decimal that a numeral denotes. -/
def decimal (n : Numeral) : Decimal :=
  ⟨digitsValue (n.whole ++ n.fraction), n.exponentValue - n.fraction.length⟩

theorem mantissa_of_le {n : Numeral} (h : n.decimal.digits ≤ mantissaLimit) :
    n.mantissa = (n.decimal.digits, -(n.fraction.length : Int)) := by
  have hdigits : n.decimal.digits = Nat.ofDigitChars 10 n.fraction (digitsValue n.whole) :=
    Nat.ofDigitChars_append 0
  rw [hdigits] at h ⊢
  have hwhole := absorb_of_le (Nat.le_trans (le_ofDigitChars n.fraction _) h)
  rw [mantissa, hwhole]
  dsimp only
  rw [show Nat.ofDigitChars 10 n.whole 0 = digitsValue n.whole from rfl, absorb_of_le h]
  simp

/-! ## Exact powers of ten -/

/-- A decimal with a mantissa and a power of ten that are numbers themselves. -/
structure Short (d : Decimal) : Prop where
  digits : d.digits ≤ 2 ^ 53
  exponent : d.exponent.natAbs ≤ 22

instance (d : Decimal) : Decidable (Short d) :=
  decidable_of_iff (d.digits ≤ 2 ^ 53 ∧ d.exponent.natAbs ≤ 22)
    ⟨fun h => ⟨h.1, h.2⟩, fun h => ⟨h.digits, h.exponent⟩⟩

theorem isDyadic_of_nonneg {m q : Nat} (hm : 0 < m) : IsDyadic (m * 2 ^ q) 1 m q := by
  refine ⟨Nat.one_pos, hm, ?_⟩
  rw [inUnits_of_nonneg (by omega)]
  dsimp only
  rw [Int.toNat_natCast, Nat.one_mul]

theorem hasValue_natural {m : Nat} (hm : 0 < m) (hle : m ≤ 2 ^ 53) : HasValue (nearest m 1) m 1 := by
  rcases Nat.lt_or_eq_of_le hle with hlt | rfl
  · have hdyadic := isDyadic_of_nonneg (q := 0) hm
    rw [Nat.pow_zero, Nat.mul_one] at hdyadic
    exact hasValue_nearest hdyadic hlt (by omega) (by omega)
  · have hdyadic := isDyadic_of_nonneg (q := 53) Nat.one_pos
    rw [Nat.one_mul] at hdyadic
    exact hasValue_nearest hdyadic (by decide) (by omega) (by omega)

theorem powerOfTen_eq (k : Nat) : powerOfTen k = nearest (10 ^ k) 1 := by
  rw [powerOfTen, Decimal.toFloat_eq]
  simp

theorem hasValue_powerOfTen {k : Nat} (hk : k ≤ 22) : HasValue (powerOfTen k) (10 ^ k) 1 := by
  have hdyadic := isDyadic_of_nonneg (q := k) (Nat.pow_pos (n := k) (by decide : 0 < 5))
  rw [← Nat.mul_pow] at hdyadic
  have hlt : 5 ^ k < 2 ^ 53 :=
    Nat.lt_of_le_of_lt (Nat.pow_le_pow_right (by decide) hk) (by decide)
  rw [powerOfTen_eq]
  exact hasValue_nearest hdyadic hlt (by omega) (by omega)

/-- A mantissa and a power of ten without rounding errors need one rounding. -/
theorem scale?_of_short {d : Decimal} (h : Short d) (hdigits : d.digits ≠ 0) :
    scale? (nearest d.digits 1) d.exponent = some d.toFloat := by
  have hexponent := h.exponent
  have hvalue := hasValue_natural (Nat.pos_of_ne_zero hdigits) h.digits
  rw [scale?, if_pos (by omega), Decimal.toFloat_eq]
  split
  · next hnonneg =>
    have hproduct := hvalue.mul_eq (hasValue_powerOfTen (k := d.exponent.toNat) (by omega))
    have hsmall : d.digits * 10 ^ d.exponent.toNat < overflowLimit * 1 := by
      calc
        d.digits * 10 ^ d.exponent.toNat ≤ 2 ^ 53 * 10 ^ 22 :=
          Nat.mul_le_mul h.digits (Nat.pow_le_pow_right (by decide) (by omega))
        _ < overflowLimit * 1 := by decide +kernel
    rw [show (-d.exponent).toNat = 0 by omega, Nat.pow_zero, hproduct, Nat.mul_one]
    dsimp only
    rw [isInf_of_isFinite ((isFinite_nearest_iff _ Nat.one_pos).mpr hsmall), if_neg Bool.false_ne_true]
  · next hneg =>
    have hquotient := hvalue.div_eq (hasValue_powerOfTen (k := (-d.exponent).toNat) (by omega))
    rw [show d.exponent.toNat = 0 by omega, Nat.pow_zero, hquotient, Nat.mul_one, Nat.one_mul]

/-- A numeral with a short decimal is read as the nearest number. -/
theorem toFloat?_of_short {n : Numeral} (h : Short n.decimal) (hdigits : n.decimal.digits ≠ 0) :
    n.toFloat? = some (withSign n.negative n.decimal.toFloat) := by
  have hlimit : n.decimal.digits ≤ mantissaLimit := Nat.le_trans h.digits (by decide)
  have hexponent : -(n.fraction.length : Int) + n.exponentValue = n.decimal.exponent := by
    rw [decimal]
    dsimp only
    omega
  rw [toFloat?, mantissa_of_le hlimit]
  dsimp only
  rw [hexponent, scale?_of_short h hdigits, Option.map_some]

/-! ## Written numbers -/

theorem exponentValue_of_some {n : Numeral} {leading : Int}
    (h : n.exponent = some (decide (leading < 0), Text.decimal leading.natAbs)) :
    n.exponentValue = leading := by
  rw [exponentValue, h]
  dsimp only
  rw [digitsValue_decimal]
  rcases Int.lt_or_le leading 0 with hneg | hnonneg
  · rw [if_pos (decide_eq_true hneg)]
    omega
  · rw [if_neg (by simpa using hnonneg)]
    omega

/-- Whatever its layout, a written decimal denotes the same number. -/
theorem toFloat_decimal_ofDecimal (negative : Bool) (d : Decimal) :
    (ofDecimal negative d).decimal.toFloat = d.toFloat := by
  have hreread := toFloat_reread d
  obtain ⟨hvalue, hplaces⟩ := positionalParts_value d
  unfold ofDecimal
  dsimp only
  split
  · generalize positionalParts d = parts at *
    obtain ⟨whole, fraction⟩ := parts
    dsimp only at hvalue hplaces
    split
    · next heq =>
      obtain ⟨rfl, rfl⟩ := Prod.mk.inj heq
      have hdecimal : decimal ⟨negative, whole, "0", none⟩ = ⟨10 * (reread d).digits, -1⟩ := by
        rw [decimal]
        dsimp only
        rw [digitsValue_append, digitsValue_zero, ← hvalue, List.append_nil]
        rfl
      have hexponent : (reread d).exponent = 0 := hplaces.symm
      -- The zero behind the point is a factor of ten in the digits.
      rw [hdecimal, ← hreread]
      apply Decimal.toFloat_congr
      rw [hexponent]
      simp [Nat.mul_comm]
    · next heq =>
      obtain ⟨rfl, rfl⟩ := Prod.mk.inj heq
      have hdecimal : decimal ⟨negative, whole, fraction, none⟩ = reread d :=
        congrArg₂ Decimal.mk hvalue ((Int.zero_sub _).trans hplaces)
      rw [hdecimal, hreread]
  · have hlength : (Text.decimal d.digits).length ≠ 0 := Nat.ne_of_gt Nat.length_toDigits_pos
    rw [decimal, exponentValue_of_some rfl]
    dsimp only
    rw [List.take_append_drop, digitsValue_decimal, List.length_drop]
    exact congrArg (fun e => (Decimal.mk d.digits e).toFloat) (by omega)

theorem negative_ofDecimal (negative : Bool) (d : Decimal) :
    (ofDecimal negative d).negative = negative := by
  unfold ofDecimal
  dsimp only
  split
  · split <;> rfl
  · rfl

theorem toFloat?_zero (negative : Bool) :
    toFloat? ⟨negative, "0", "0", none⟩ = some (withSign negative (Float.ofBits 0)) := by
  cases negative <;> decide +kernel

/-- The written form of a finite number, by the decimal it denotes. -/
theorem ofFinite_cases {x : Float} (hfinite : x.isFinite = true) :
    (ofFinite x = ⟨isNegative x, "0", "0", none⟩ ∧ absolute x = Float.ofBits 0) ∨
      ((ofFinite x).negative = isNegative x ∧ (ofFinite x).decimal.toFloat = absolute x ∧
        (ofFinite x).decimal.digits ≠ 0) := by
  unfold ofFinite
  dsimp only
  split
  · next hzero =>
    refine .inl ⟨rfl, ?_⟩
    rw [← ofBits_magnitudeCode (isFinite_absolute hfinite) (isNegative_absolute hfinite),
      magnitudeCode_absolute hfinite, hzero]
    rfl
  · next hcode =>
    rw [← magnitudeCode_absolute hfinite] at hcode
    have hshortest := toFloat_shortest .toEven (isFinite_absolute hfinite)
      (isNegative_absolute hfinite) hcode
    have hwritten := toFloat_decimal_ofDecimal (isNegative x) (shortest .toEven (absolute x))
    rw [hshortest] at hwritten
    refine .inr ⟨negative_ofDecimal _ _, hwritten, digits_ne_zero ?_⟩
    rwa [← hwritten] at hcode

/-- A number whose digits are few and whose power of ten is small comes back. -/
theorem toFloat?_ofFinite_of_short {x : Float} (hfinite : x.isFinite = true)
    (h : Short (ofFinite x).decimal) : (ofFinite x).toFloat? = some x := by
  rcases ofFinite_cases hfinite with ⟨hwritten, habsolute⟩ | ⟨hnegative, htoFloat, hdigits⟩
  · rw [hwritten, toFloat?_zero, ← habsolute, withSign_absolute hfinite]
  · rw [toFloat?_of_short h hdigits, hnegative, htoFloat, withSign_absolute hfinite]

end Equate.Json.Numeral
