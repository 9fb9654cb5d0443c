import Equate.Proofs.Json.Number

/-!
# No finite number is refused

The reader refuses a number whose product with a power of ten is infinite. Digits that do
not fit the mantissa are dropped, and the roundings of the mantissa and of the power add one
part in `2 ^ 53` each, which leaves every product below the limit but those of the three
largest numbers. The digits of these are known.
-/
namespace Equate.Json.Numeral
open Number Text

/-! ## What a mantissa keeps -/

/-- A digit more makes a number at most one digit longer. -/
theorem ofDigitChars_singleton_le {c : Char} (h : c.isDigit = true) (m : Nat) :
    Nat.ofDigitChars 10 [c] m ≤ 10 * m + 9 := by
  have hbound : c.toNat ≤ 57 := by
    rw [Char.isDigit, Bool.and_eq_true, decide_eq_true_iff, decide_eq_true_iff] at h
    exact h.2
  rw [Nat.ofDigitChars_cons, Nat.ofDigitChars_nil, show '0'.toNat = 48 from rfl]
  omega

theorem ofDigitChars_lt {digits : Text} (h : ∀ c ∈ digits, c.isDigit = true) (m : Nat) :
    Nat.ofDigitChars 10 digits m < (m + 1) * 10 ^ digits.length := by
  induction digits generalizing m with
  | nil => simp
  | cons c digits ih =>
    obtain ⟨hdigit, hdigits⟩ := List.forall_mem_cons.mp h
    have hnext := ofDigitChars_singleton_le hdigit m
    calc
      Nat.ofDigitChars 10 (c :: digits) m
        = Nat.ofDigitChars 10 digits (Nat.ofDigitChars 10 [c] m) := rfl
      _ < (Nat.ofDigitChars 10 [c] m + 1) * 10 ^ digits.length := ih hdigits _
      _ ≤ (m + 1) * 10 * 10 ^ digits.length := Nat.mul_le_mul_right _ (by omega)
      _ = (m + 1) * 10 ^ (c :: digits).length := by
        rw [List.length_cons, Nat.pow_succ', Nat.mul_assoc]

theorem absorb_mul_le (m : Nat) (digits : Text) :
    (absorb m digits).1 * 10 ^ (absorb m digits).2.length ≤ Nat.ofDigitChars 10 digits m := by
  induction digits generalizing m with
  | nil => exact Nat.le_of_eq (Nat.mul_one m)
  | cons c digits ih =>
    rw [absorb]
    split
    · exact ih _
    · rw [Nat.ofDigitChars_eq_ofDigitChars_zero, Nat.mul_comm]
      exact Nat.le_add_right _ _

theorem absorb_ne_zero {m : Nat} {digits : Text} (hdigits : ∀ c ∈ digits, c.isDigit = true)
    (h : Nat.ofDigitChars 10 digits m ≠ 0) : (absorb m digits).1 ≠ 0 := by
  induction digits generalizing m with
  | nil => exact h
  | cons c digits ih =>
    obtain ⟨hdigit, hdigits⟩ := List.forall_mem_cons.mp hdigits
    rw [absorb]
    split
    · exact ih hdigits h
    · next hfull =>
      rintro rfl
      exact hfull (Nat.le_trans (ofDigitChars_singleton_le hdigit 0) (by decide))

/-- The mantissa and the power of ten that are read are positive and not above the decimal. -/
theorem exists_mantissa {n : Numeral} (hfraction : ∀ c ∈ n.fraction, c.isDigit = true)
    (hwhole : digitsValue n.whole ≤ mantissaLimit) (hdigits : n.decimal.digits ≠ 0) :
    ∃ m k, n.mantissa.1 = m ∧ n.mantissa.2 + n.exponentValue = n.decimal.exponent + (k : Nat) ∧
      0 < m ∧ m * 10 ^ k ≤ n.decimal.digits := by
  have hvalue : n.decimal.digits = Nat.ofDigitChars 10 n.fraction (digitsValue n.whole) :=
    Nat.ofDigitChars_append 0
  have hmantissa : n.mantissa = ((absorb (digitsValue n.whole) n.fraction).1,
      -((n.fraction.length : Int) - (absorb (digitsValue n.whole) n.fraction).2.length)) := by
    rw [mantissa, absorb_of_le hwhole]
    simp [digitsValue]
  rw [hvalue] at hdigits ⊢
  refine ⟨_, (absorb (digitsValue n.whole) n.fraction).2.length, congrArg Prod.fst hmantissa, ?_,
    Nat.pos_of_ne_zero (absorb_ne_zero hfraction hdigits), absorb_mul_le _ _⟩
  rw [hmantissa, decimal]
  dsimp only
  omega

/-! ## The written digits -/

/-- A written number has sixteen digits at most in front of the point. -/
theorem length_whole_ofDecimal (negative : Bool) (d : Decimal) :
    (ofDecimal negative d).whole.length ≤ 16 := by
  unfold ofDecimal
  dsimp only
  split
  · next hplace =>
    have hwhole : (positionalParts d).1.length ≤ 16 := by
      unfold positionalParts
      dsimp only
      split
      · rw [List.length_append, zeros, List.length_replicate]
        omega
      · split
        · rw [List.length_take]
          omega
        · exact (by decide : ("0" : Text).length ≤ 16)
    generalize positionalParts d = parts at *
    obtain ⟨whole, fraction⟩ := parts
    split
    · next heq =>
      obtain ⟨rfl, -⟩ := Prod.mk.inj heq
      exact hwhole
    · next heq =>
      obtain ⟨rfl, -⟩ := Prod.mk.inj heq
      exact hwhole
  · dsimp only
    rw [List.length_take]
    omega

theorem length_whole_ofFinite (x : Float) : (ofFinite x).whole.length ≤ 16 := by
  unfold ofFinite
  dsimp only
  split
  · exact (by decide : ("0" : Text).length ≤ 16)
  · exact length_whole_ofDecimal _ _

theorem IsWhole.isDigit {whole : Text} (h : IsWhole whole) : ∀ c ∈ whole, c.isDigit = true := by
  rcases h with rfl | ⟨-, -, -, -, hdigits⟩
  · exact isDigit_of_mem_zero
  · exact hdigits

theorem digitsValue_whole_ofFinite {x : Float} (hfinite : x.isFinite = true) :
    digitsValue (ofFinite x).whole ≤ mantissaLimit := by
  apply Nat.le_of_lt
  calc
    digitsValue (ofFinite x).whole < (0 + 1) * 10 ^ (ofFinite x).whole.length :=
      ofDigitChars_lt (wellFormed_ofFinite hfinite).whole.isDigit 0
    _ ≤ (0 + 1) * 10 ^ 16 :=
      Nat.mul_le_mul_left _ (Nat.pow_le_pow_right (by decide) (length_whole_ofFinite x))
    _ ≤ mantissaLimit := by decide

/-! ## Scaling -/

/-- Division gives a number always. -/
theorem exists_scale?_of_neg (f : Float) {x : Int} (hx : x < 0) : ∃ y, scale? f x = some y := by
  induction f, x using scale?.induct with
  | case1 f x hnear hnonneg => omega
  | case2 f x hnear hnonneg => omega
  | case3 f x hnear hneg =>
    rw [scale?, if_pos hnear, if_neg hneg]
    exact ⟨_, rfl⟩
  | case4 f x hfar hzero =>
    rw [scale?, if_neg hfar, if_pos hzero]
    exact ⟨_, rfl⟩
  | case5 f x hfar hzero hpos => omega
  | case6 f x hfar hzero hneg ih =>
    rw [scale?, if_neg hfar, if_neg hzero, if_neg hneg]
    exact ih (by omega)

/-- A product below the largest numbers is finite, with both factors rounded. -/
theorem exists_scale?_of_lt {m k : Nat} (hm : 0 < m) (h : m * 10 ^ k < nearLimit) :
    ∃ y, scale? (nearest m 1) k = some y := by
  have hnear : nearLimit < overflowLimit := by decide +kernel
  have hpower : 0 < 10 ^ k := Nat.pow_pos (by decide)
  have hk : k ≤ 308 := by
    by_contra hlarge
    have hbeyond : nearLimit ≤ m * 10 ^ k := by
      calc
        nearLimit ≤ 10 ^ 309 := by decide +kernel
        _ ≤ 10 ^ k := Nat.pow_le_pow_right (by decide) (by omega)
        _ ≤ m * 10 ^ k := Nat.le_mul_of_pos_left _ hm
    omega
  have hlimit : m < overflowLimit ∧ 10 ^ k < overflowLimit := by
    have hleft : m ≤ m * 10 ^ k := Nat.le_mul_of_pos_right m hpower
    have hright : 10 ^ k ≤ m * 10 ^ k := Nat.le_mul_of_pos_left _ hm
    omega
  obtain ⟨v, hv, herror⟩ := exists_hasValue_nearest hm hlimit.1
  obtain ⟨w, hw, herror'⟩ := exists_hasValue_nearest hpower hlimit.2
  have hproduct : v * w < overflowLimit * 1 := by
    have hscaled : v * w * 2 ^ 106 < overflowLimit * 2 ^ 106 := by
      calc
        v * w * 2 ^ 106 = v * 2 ^ 53 * (w * 2 ^ 53) := by ring
        _ ≤ m * (2 ^ 53 + 1) * (10 ^ k * (2 ^ 53 + 1)) := Nat.mul_le_mul herror herror'
        _ = m * 10 ^ k * (2 ^ 53 + 1) ^ 2 := by ring
        _ < nearLimit * (2 ^ 53 + 1) ^ 2 := (Nat.mul_lt_mul_right (by decide)).mpr h
        _ ≤ overflowLimit * 2 ^ 106 := by decide +kernel
    rw [Nat.mul_one]
    exact Nat.lt_of_mul_lt_mul_right hscaled
  have hfinite := isInf_of_isFinite ((isFinite_nearest_iff (v * w) Nat.one_pos).mpr hproduct)
  rw [← powerOfTen_eq] at hw
  have hrounded := hv.mul_eq hw
  rw [Nat.mul_one] at hrounded
  rw [← hrounded] at hfinite
  rw [scale?, if_pos (by omega), if_pos (Int.natCast_nonneg k), Int.toNat_natCast]
  dsimp only
  rw [hfinite]
  exact ⟨_, if_neg Bool.false_ne_true⟩

/-- The three largest numbers and their opposites are read again. -/
theorem exists_toFloat?_largest (negative : Bool) {code : Nat} (hcode : code < infinityCode)
    (hlarge : infinityCode ≤ code + 3) :
    ∃ y, (ofFinite (withSign negative (Float.ofBits code.toUInt64))).toFloat? = some y := by
  rw [infinityCode_eq] at hcode hlarge
  obtain rfl | rfl | rfl : code = 2047 * 2 ^ 52 - 1 ∨ code = 2047 * 2 ^ 52 - 2 ∨
      code = 2047 * 2 ^ 52 - 3 := by omega
  all_goals
    rw [← Option.isSome_iff_exists]
    cases negative <;> decide +kernel

/-- A number that is not one of the largest has a decimal below their limit. -/
theorem decimal_lt_nearLimit {d : Decimal} (h : magnitudeCode d.toFloat + 3 < infinityCode) :
    d.digits * 10 ^ d.exponent.toNat < nearLimit * 10 ^ (-d.exponent).toNat := by
  have hden : 0 < 10 ^ (-d.exponent).toNat := Nat.pow_pos (by decide)
  by_contra hlarge
  have hcode := infinityCode_le_nearestCode hden (Nat.not_lt.mp hlarge)
  have hle := nearestCode_le (d.digits * 10 ^ d.exponent.toNat) (10 ^ (-d.exponent).toNat)
  rw [Decimal.toFloat_eq, magnitudeCode_eq, toNat_toBits_nearest,
    Nat.mod_eq_of_lt (Nat.lt_of_le_of_lt hle (by decide))] at h
  omega

/-- What is read of the digits is in range if the number is not one of the largest. -/
theorem exists_scale?_of_le {d : Decimal} {m k : Nat} (hm : 0 < m) (hle : m * 10 ^ k ≤ d.digits)
    (h : magnitudeCode d.toFloat + 3 < infinityCode) :
    ∃ y, scale? (nearest m 1) (d.exponent + k) = some y := by
  rcases Int.lt_or_le (d.exponent + k) 0 with hneg | hnonneg
  · exact exists_scale?_of_neg _ hneg
  · obtain ⟨j, hj⟩ := Int.eq_ofNat_of_zero_le hnonneg
    rw [hj]
    apply exists_scale?_of_lt hm
    apply Nat.lt_of_mul_lt_mul_right (a := 10 ^ (-d.exponent).toNat)
    calc
      m * 10 ^ j * 10 ^ (-d.exponent).toNat = m * 10 ^ k * 10 ^ d.exponent.toNat := by
        rw [Nat.mul_assoc, Nat.mul_assoc, ← Nat.pow_add, ← Nat.pow_add,
          show j + (-d.exponent).toNat = k + d.exponent.toNat by omega]
      _ ≤ d.digits * 10 ^ d.exponent.toNat := Nat.mul_le_mul_right _ hle
      _ < nearLimit * 10 ^ (-d.exponent).toNat := decimal_lt_nearLimit h

/-- Every finite number is read as some number from its written form. -/
theorem exists_toFloat?_ofFinite {x : Float} (hfinite : x.isFinite = true) :
    ∃ y, (ofFinite x).toFloat? = some y := by
  have hcode := (isFinite_iff x).mp hfinite
  rcases Nat.lt_or_ge (magnitudeCode x + 3) infinityCode with hbelow | hlarge
  · rcases ofFinite_cases hfinite with ⟨hwritten, -⟩ | ⟨-, htoFloat, hdigits⟩
    · exact ⟨_, hwritten ▸ toFloat?_zero _⟩
    · obtain ⟨m, k, rfl, hexponent, hpos, hle⟩ := exists_mantissa
        (wellFormed_ofFinite hfinite).fraction (digitsValue_whole_ofFinite hfinite) hdigits
      rw [← magnitudeCode_absolute hfinite, ← htoFloat] at hbelow
      obtain ⟨y, hy⟩ := exists_scale?_of_le hpos hle hbelow
      rw [← hexponent] at hy
      exact ⟨_, congrArg (Option.map (withSign (ofFinite x).negative)) hy⟩
  · rw [← withSign_absolute hfinite,
      ← ofBits_magnitudeCode (isFinite_absolute hfinite) (isNegative_absolute hfinite),
      magnitudeCode_absolute hfinite]
    exact exists_toFloat?_largest _ hcode hlarge

end Equate.Json.Numeral
