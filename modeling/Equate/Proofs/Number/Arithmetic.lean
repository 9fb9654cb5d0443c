import Mathlib
import Equate.Proofs.Number.Overflow

/-!
# Products and quotients are rounded once

Multiplication and division of numbers shift an exact mantissa to the right and keep two
bits of what falls out: whether it is half a unit or more, and whether it is something else
than nothing or one half. This is enough to round halves to even, so the product and the
quotient of two numbers are the nearest numbers to the exact ones.
-/
namespace Equate.Number
open Float.Model Float.Model.UnpackedFloat

/-! ## Bits that are kept for rounding -/

/-- A mantissa and its two bits stand for a quotient. -/
structure Represents (em : ExtendedMantissa) (num den : Nat) : Prop where
  mantissa : em.mantissa = num / den
  roundBit : em.roundBit = true ↔ den ≤ 2 * (num % den)
  stickyBit : em.stickyBit = true ↔ num % den ≠ 0 ∧ 2 * (num % den) ≠ den

theorem represents_ofMantissaAndAccuracy (num : Nat) {den : Nat} (hden : 0 < den) :
    Represents (.ofMantissaAndAccuracy (num / den) (accuracyOfFraction (num % den) den)) num den := by
  unfold accuracyOfFraction
  split
  · next hzero =>
    exact ⟨rfl, iff_of_false Bool.false_ne_true (by omega), iff_of_false Bool.false_ne_true (by omega)⟩
  · next hrest =>
    rcases hcompare : compare (2 * (num % den)) den with _ | _ | _
    · rw [Nat.compare_eq_lt] at hcompare
      exact ⟨rfl, iff_of_false Bool.false_ne_true (by omega), iff_of_true rfl ⟨hrest, by omega⟩⟩
    · rw [Nat.compare_eq_eq] at hcompare
      exact ⟨rfl, iff_of_true rfl (by omega), iff_of_false Bool.false_ne_true (by omega)⟩
    · rw [Nat.compare_eq_gt] at hcompare
      exact ⟨rfl, iff_of_true rfl (by omega), iff_of_true rfl ⟨hrest, by omega⟩⟩

namespace Represents
variable {em : ExtendedMantissa} {num den : Nat}

theorem roundedMantissa (h : Represents em num den) (hden : 0 < den) :
    em.roundedMantissa = roundHalfEven num den := by
  obtain ⟨mantissa, roundBit, stickyBit⟩ := em
  obtain ⟨hmantissa, hround, hsticky⟩ := h
  dsimp only at hmantissa hround hsticky
  unfold roundHalfEven
  rw [← hmantissa]
  cases roundBit <;> cases stickyBit <;>
    simp only [true_iff, false_iff, Bool.false_eq_true] at hround hsticky <;>
    simp only [ExtendedMantissa.roundedMantissa, ExtendedMantissa.accuracy,
      Accuracy.roundToNearestEven] <;>
    split_ifs <;> omega

/-- Half of a quotient: the bit that falls out decides together with the former bits. -/
theorem shiftRightOne (h : Represents em num den) (hden : 0 < den) :
    Represents em.shiftRightOne num (den * 2) := by
  obtain ⟨hmantissa, hround, hsticky⟩ := h
  have hrest := Nat.mod_lt num hden
  have hmod : num % (den * 2) = num % den + den * (num / den % 2) := Nat.mod_mul
  have hparity : num / den % 2 = 0 ∨ num / den % 2 = 1 := Nat.mod_two_eq_zero_or_one _
  constructor
  case mantissa =>
    rw [← Nat.div_div_eq_div_mul, ← hmantissa]
    rfl
  case roundBit =>
    have hbit : em.shiftRightOne.roundBit = true ↔ num / den % 2 ≠ 0 := by
      rw [← hmantissa]
      exact bne_iff_ne
    rw [hbit, hmod]
    rcases hparity with hparity | hparity <;> rw [hparity] <;> omega
  case stickyBit =>
    have hbit : em.shiftRightOne.stickyBit = true ↔ num % den ≠ 0 := by
      refine Bool.or_eq_true_iff.trans ?_
      rw [hround, hsticky]
      omega
    rw [hbit, hmod]
    rcases hparity with hparity | hparity <;> rw [hparity] <;> omega

theorem shiftRight (h : Represents em num den) (hden : 0 < den) (k : Nat) :
    Represents (em >>> k) num (den * 2 ^ k) := by
  induction k with
  | zero =>
    rw [Nat.pow_zero, Nat.mul_one]
    exact h
  | succ k ih =>
    rw [Nat.pow_succ, ← Nat.mul_assoc]
    exact ih.shiftRightOne (Nat.mul_pos hden (Nat.two_pow_pos k))

end Represents

/-! ## Rounding -/

/-- The number of units of `2 ^ e` in a quotient, as a quotient of its own. -/
structure Counts (num den : Nat) (e : Int) (n d : Nat) : Prop where
  num_pos : 0 < num
  den_pos : 0 < den
  pos : 0 < d
  eq : (inUnits num den e).1 * d = n * (inUnits num den e).2

namespace Counts
variable {num den n d : Nat} {e : Int} (h : Counts num den e n d)
include h

theorem reaches_iff (i : Nat) : Reaches num den (e + i) ↔ 2 ^ i ≤ n / d := by
  have hpos : 0 < (inUnits num den e).2 := inUnits_pos num h.den_pos e
  rw [reaches_add_iff, Nat.le_div_iff_mul_le h.pos]
  calc
    _ ↔ 2 ^ i * (inUnits num den e).2 * d ≤ (inUnits num den e).1 * d :=
      (Nat.mul_le_mul_right_iff h.pos).symm
    _ ↔ 2 ^ i * d * (inUnits num den e).2 ≤ n * (inUnits num den e).2 := by
      rw [h.eq, Nat.mul_right_comm]
    _ ↔ 2 ^ i * d ≤ n := Nat.mul_le_mul_right_iff hpos

/-- The exponent for which a mantissa is shifted is that of the last place. -/
theorem targetExponent_eq (he : e ≤ lastPlace num den) :
    Format.targetExponent format (totalExponent (n / d) e) = lastPlace num den := by
  have htarget : Format.targetExponent format (totalExponent (n / d) e) =
      max (((n / d).log2 : Int) + 1 + e - 53) (-1074) := rfl
  have hlast : lastPlace num den = max (binade num den - 52) (-1074) := rfl
  obtain ⟨hreach, hnext⟩ := reaches_binade h.num_pos h.den_pos
  rcases Nat.eq_zero_or_pos (n / d) with hzero | hpos
  · have hnot : ¬ Reaches num den e := by
      have hunit := h.reaches_iff 0
      rw [hzero] at hunit
      simpa using hunit
    have hbelow : binade num den < e := by
      by_contra hge
      exact hnot (hreach.mono (by omega))
    rw [htarget, hzero, show Nat.log2 0 = 0 from rfl]
    omega
  · have hbinade : binade num den = e + (n / d).log2 := by
      apply binade_eq_of_reaches h.num_pos h.den_pos
      · rw [h.reaches_iff]
        exact Nat.log2_self_le (Nat.ne_of_gt hpos)
      · rw [Int.add_assoc, show ((n / d).log2 : Int) + 1 = ((n / d).log2 + 1 : Nat) from rfl,
          h.reaches_iff, Nat.not_le]
        exact Nat.lt_log2_self
    rw [htarget]
    omega

/-- The same quotient counted in larger units. -/
theorem mono {t : Int} (ht : e ≤ t) : Counts num den t n (d * 2 ^ (t - e).toNat) := by
  refine ⟨h.num_pos, h.den_pos, Nat.mul_pos h.pos (Nat.two_pow_pos _), ?_⟩
  have hscaled := (inUnits_eq_iff (k := (-e).toNat) (by omega)).mp h.eq
  rw [inUnits_eq_iff (k := (-e).toNat) (by omega),
    show (t + ((-e).toNat : Int)).toNat = (e + ((-e).toNat : Int)).toNat + (t - e).toNat by omega,
    Nat.pow_add, ← Nat.mul_assoc (n * den), ← hscaled]
  ring

theorem roundHalfEven_eq :
    roundHalfEven n d = roundHalfEven (inUnits num den e).1 (inUnits num den e).2 :=
  roundHalfEven_congr h.pos (inUnits_pos num h.den_pos e) h.eq.symm

/-- Shifted and rounded, a mantissa counts units of the last place. -/
theorem shiftToTargetExponent_eq (he : e ≤ lastPlace num den) :
    ∃ em, shiftToTargetExponent format (n / d) e (accuracyOfFraction (n % d) d) =
        (em, lastPlace num den) ∧
      em.roundedMantissa = roundHalfEven (inUnits num den (lastPlace num den)).1
        (inUnits num den (lastPlace num den)).2 := by
  have hlarger := h.mono he
  have hrepresents := (represents_ofMantissaAndAccuracy n h.pos).shiftRight h.pos
    (lastPlace num den - e).toNat
  refine ⟨_, ?_, (hrepresents.roundedMantissa hlarger.pos).trans hlarger.roundHalfEven_eq⟩
  rw [shiftToTargetExponent, h.targetExponent_eq he]
  refine Prod.ext rfl ?_
  show e + ((lastPlace num den - e).toNat : Int) = lastPlace num den
  omega

end Counts

/-- A mantissa and an exponent that the format has. -/
structure InFormat (m : Nat) (q : Int) : Prop where
  pos : 0 < m
  lt : m < 2 ^ 53
  place : 2 ^ 52 ≤ m ∧ -1074 ≤ q ∨ q = -1074

theorem InFormat.toNat_pack {m : Nat} {q : Int} (h : InFormat m q) :
    (UnpackedFloat.pack format (.finite .positive m q h.pos)).toNat =
      min ((q + 1074).toNat * 2 ^ 52 + m) infinityCode := by
  obtain ⟨hpos, hlt, hplace⟩ := h
  have hlog : m.log2 < 53 := (Nat.log2_lt (Nat.ne_of_gt hpos)).mpr hlt
  have hnormal : 2 ^ 52 ≤ m ↔ 52 ≤ m.log2 := (Nat.le_log2 (Nat.ne_of_gt hpos)).symm
  have hpack : UnpackedFloat.pack format (.finite .positive m q hpos) =
      if 2 ^ 11 ≤ (q + 1023 + 52).toNat + 1 then packedInfinity format .positive
      else if m.log2 + 1 = 53 then
        packComponents format .positive (BitVec.ofNat 11 (q + 1023 + 52).toNat) (BitVec.ofNat 52 m)
      else packComponents format .positive 0#11 (BitVec.ofNat 52 m) := rfl
  rw [hpack, infinityCode_eq]
  split_ifs with hinfinite hlong
  · rw [show (packedInfinity format .positive).toNat = 2047 * 2 ^ 52 by decide]
    omega
  all_goals
    rw [toNat_packComponents, BitVec.toNat_ofNat, BitVec.toNat_ofNat,
      show Sign.positive.toBitVec.toNat = 0 from rfl]
    omega

/-- A rounded mantissa is long enough but for a carry, which shifts it once more. -/
theorem shiftToTargetExponent_rounded {r : Nat} {t : Int} (hr : r ≤ 2 ^ 53) (ht : -1074 ≤ t) :
    shiftToTargetExponent format r t .exact =
      if r < 2 ^ 53 then (⟨r, false, false⟩, t) else (⟨2 ^ 52, false, false⟩, t + 1) := by
  have htarget : Format.targetExponent format (totalExponent r t) =
      max ((r.log2 : Int) + 1 + t - 53) (-1074) := rfl
  rw [shiftToTargetExponent, htarget]
  split
  · next hlt =>
    have hlog : r.log2 < 53 := by
      rcases Nat.eq_zero_or_pos r with rfl | hpos
      · decide
      · exact (Nat.log2_lt (Nat.ne_of_gt hpos)).mpr hlt
    have hshift : max ((r.log2 : Int) + 1 + t - 53) (-1074) ≤ t := by omega
    rw [shiftToExponent, show (max ((r.log2 : Int) + 1 + t - 53) (-1074) - t).toNat = 0 by omega]
    refine Prod.ext rfl (Int.add_zero t)
  · next hge =>
    obtain rfl : r = 2 ^ 53 := by omega
    rw [shiftToExponent, Nat.log2_two_pow,
      show (max (((53 : Nat) : Int) + 1 + t - 53) (-1074) - t).toNat = 1 by omega]
    rfl

theorem roundWithAccuracy_eq {s : Sign} {m : Nat} {e t : Int} {a : Accuracy}
    {em : ExtendedMantissa} (hshift : shiftToTargetExponent format m e a = (em, t))
    (hcarry : em.roundedMantissa ≤ 2 ^ 53) (ht : -1074 ≤ t) :
    roundWithAccuracy format s m e a =
      if h : em.roundedMantissa = 0 then .zero s
      else if em.roundedMantissa < 2 ^ 53 then
        .finite s em.roundedMantissa t (Nat.pos_of_ne_zero h)
      else .finite s (2 ^ 52) (t + 1) (by decide) := by
  have hagain := shiftToTargetExponent_rounded hcarry ht
  rw [roundWithAccuracy, hshift]
  dsimp only
  by_cases hlt : em.roundedMantissa < 2 ^ 53
  · rw [if_pos hlt] at hagain
    simp only [hagain, hlt, if_true]
  · rw [if_neg hlt] at hagain
    simp only [hagain, hlt, if_false]
    rw [dif_neg (by decide), dif_neg (by omega)]

/-- Rounding with two bits gives the nearest number. -/
theorem toNat_pack_roundWithAccuracy {num den n d : Nat} {e : Int} (h : Counts num den e n d)
    (he : e ≤ lastPlace num den) :
    (UnpackedFloat.pack format (roundWithAccuracy format .positive (n / d) e
      (accuracyOfFraction (n % d) d))).toNat = nearestCode num den := by
  obtain ⟨em, hshift, hrounded⟩ := h.shiftToTargetExponent_eq he
  obtain ⟨hcarry, hlow⟩ := roundHalfEven_lastPlace h.num_pos h.den_pos
  have hlast : -1074 ≤ lastPlace num den := Int.le_max_right _ _
  rw [← hrounded] at hcarry hlow
  rw [nearestCode_of_pos h.num_pos rfl hrounded.symm, roundWithAccuracy_eq hshift hcarry hlast]
  split_ifs with hzero hlt
  · rw [hzero, show lastPlace num den = -1074 by omega]
    rfl
  · exact InFormat.toNat_pack ⟨Nat.pos_of_ne_zero hzero, hlt, by omega⟩
  · have hcarried : em.roundedMantissa = 2 ^ 53 := by omega
    rw [InFormat.toNat_pack ⟨Nat.two_pow_pos 52, by decide, by omega⟩, hcarried]
    omega

/-! ## Exact values -/

/-- Both parts of the magnitude of a code. -/
theorem magnitude_cases (code : Nat) :
    (code < 2 ^ 52 ∧ magnitude code = (code, -1074)) ∨
      (2 ^ 52 ≤ code ∧
        magnitude code = (2 ^ 52 + code % 2 ^ 52, ((code / 2 ^ 52 : Nat) : Int) - 1075)) := by
  rcases Nat.lt_or_ge code (2 ^ 52) with hlt | hge
  · exact .inl ⟨hlt, if_pos hlt⟩
  · exact .inr ⟨hge, if_neg (Nat.not_lt.mpr hge)⟩

theorem inFormat_magnitude {code : Nat} (hcode : code ≠ 0) :
    InFormat (magnitude code).1 (magnitude code).2 := by
  rcases magnitude_cases code with ⟨hlt, hmag⟩ | ⟨hge, hmag⟩ <;> rw [hmag]
  · exact ⟨Nat.pos_of_ne_zero hcode, Nat.lt_trans hlt (by decide), .inr rfl⟩
  · constructor
    case pos => exact Nat.add_pos_left (Nat.two_pow_pos 52) _
    case lt => dsimp only; omega
    case place => dsimp only; omega

theorem InFormat.magnitude_eq {m : Nat} {q : Int} (h : InFormat m q) :
    magnitude ((q + 1074).toNat * 2 ^ 52 + m) = (m, q) := by
  obtain ⟨hpos, hlt, hplace⟩ := h
  rcases magnitude_cases ((q + 1074).toNat * 2 ^ 52 + m) with ⟨hcode, hmag⟩ | ⟨hcode, hmag⟩ <;>
    rw [hmag] <;> refine Prod.ext ?_ ?_ <;> dsimp only <;> omega

theorem unpack_of_magnitude {b : BitVec format.numBits} {m : Nat} {q : Int} (hpos : 0 < m)
    (hb : b.toNat < infinityCode) (hmag : magnitude b.toNat = (m, q)) :
    UnpackedFloat.unpack format b = .finite .positive m q hpos := by
  rw [infinityCode_eq] at hb
  have hsign : Sign.ofBitVec (unpackSign b) = .positive := by
    have hzero : unpackSign b = 0#1 := by
      apply BitVec.eq_of_toNat_eq
      rw [toNat_unpackSign, Nat.div_eq_of_lt (Nat.lt_trans hb (by decide))]
      rfl
    rw [hzero]
    rfl
  have hmantissa := toNat_unpackMantissa b
  have hexponent := toNat_unpackExponent b
  have hfinite : unpackExponent b ≠ -1#11 := by
    rw [Ne, unpackExponent_eq_iff, infinityCode_eq]
    omega
  unfold UnpackedFloat.unpack
  dsimp only
  rw [if_neg hfinite, hsign]
  rcases magnitude_cases b.toNat with ⟨hlt, hcases⟩ | ⟨hge, hcases⟩
  · obtain ⟨rfl, rfl⟩ := Prod.mk.inj (hcases.symm.trans hmag)
    have hzero : unpackExponent b = 0#11 := by
      apply BitVec.eq_of_toNat_eq
      rw [hexponent, Nat.div_eq_of_lt hlt]
      rfl
    have hnonzero : unpackMantissa b ≠ 0#52 := fun h => by
      have hrest : b.toNat % 2 ^ 52 = 0 := hmantissa.symm.trans (congrArg BitVec.toNat h)
      omega
    rw [if_pos hzero, dif_neg hnonzero]
    congr 1
    · rw [hmantissa, Nat.mod_eq_of_lt hlt]
    · rw [hexponent, Nat.div_eq_of_lt hlt]
      rfl
  · obtain ⟨rfl, rfl⟩ := Prod.mk.inj (hcases.symm.trans hmag)
    have hnonzero : unpackExponent b ≠ 0#11 := fun h => by
      have hrest : b.toNat / 2 ^ 52 % 2 ^ 11 = 0 := hexponent.symm.trans (congrArg BitVec.toNat h)
      omega
    have hmantissaLt : (unpackMantissa b).toNat < 2 ^ 52 := (unpackMantissa b).isLt
    rw [if_neg hnonzero]
    congr 1
    · rw [← hmantissa, BitVec.toNat_append, ← Nat.shiftLeft_add_eq_or_of_lt hmantissaLt]
      rfl
    · rw [hexponent, Nat.mod_eq_of_lt (by omega)]
      rfl

/-- Unpacking a positive finite number gives its magnitude. -/
theorem unpack_eq {x : Float} (hfinite : x.isFinite = true) (hsign : isNegative x = false)
    (hcode : magnitudeCode x ≠ 0) :
    x.toModel.unpack = .finite .positive (magnitude (magnitudeCode x)).1
      (magnitude (magnitudeCode x)).2 (inFormat_magnitude hcode).pos := by
  have hbits : x.toBits.toNat = magnitudeCode x := by
    rw [← Bool.not_eq_true, isNegative_iff, Nat.not_le] at hsign
    rw [magnitudeCode_eq, Nat.mod_eq_of_lt hsign]
  have hlt := (isFinite_iff x).mp hfinite
  rw [← hbits] at hlt
  exact unpack_of_magnitude _ hlt (congrArg magnitude hbits)

/-- A positive finite number is exactly the quotient. -/
structure HasValue (x : Float) (num den : Nat) : Prop where
  finite : x.isFinite = true
  positive : isNegative x = false
  dyadic : IsDyadic num den (magnitude (magnitudeCode x)).1 (magnitude (magnitudeCode x)).2

theorem toNat_toBits_nearest (num den : Nat) :
    (nearest num den).toBits.toNat = nearestCode num den := by
  have hinfinity : (Float.ofBits infinityCode.toUInt64).toBits.toNat = infinityCode := by
    decide +kernel
  rcases Nat.lt_or_eq_of_le (nearestCode_le num den) with hlt | heq
  · exact toNat_toBits_ofBits hlt
  · rw [nearest, heq, hinfinity]

theorem eq_nearest_of_toNat {x : Float} {num den : Nat}
    (h : x.toBits.toNat = nearestCode num den) : x = nearest num den :=
  Float.toBits_inj.mp (UInt64.toNat_inj.mp (h.trans (toNat_toBits_nearest num den).symm))

namespace HasValue
variable {x y : Float} {a b c d : Nat}

theorem magnitudeCode_ne_zero (h : HasValue x a b) : magnitudeCode x ≠ 0 := by
  intro hzero
  have hpos := h.dyadic.2.1
  rw [hzero] at hpos
  exact absurd hpos (by decide)

theorem inFormat (h : HasValue x a b) :
    InFormat (magnitude (magnitudeCode x)).1 (magnitude (magnitudeCode x)).2 :=
  inFormat_magnitude h.magnitudeCode_ne_zero

theorem unpack (h : HasValue x a b) :
    x.toModel.unpack = .finite .positive (magnitude (magnitudeCode x)).1
      (magnitude (magnitudeCode x)).2 h.inFormat.pos :=
  unpack_eq h.finite h.positive h.magnitudeCode_ne_zero

/-- The mantissa and the exponent of the number, which is what the operations see. -/
theorem exists_unpack (h : HasValue x a b) :
    ∃ m q, ∃ hformat : InFormat m q, x.toModel.unpack = .finite .positive m q hformat.pos ∧
      IsDyadic a b m q :=
  ⟨_, _, h.inFormat, h.unpack, h.dyadic⟩

end HasValue

section
variable {a b c d m₁ m₂ : Nat} {q₁ q₂ : Int}

theorem IsDyadic.counts_mul (h₁ : IsDyadic a b m₁ q₁) (h₂ : IsDyadic c d m₂ q₂) :
    Counts (a * c) (b * d) (q₁ + q₂) (m₁ * m₂) 1 := by
  refine ⟨Nat.mul_pos h₁.num_pos h₂.num_pos, Nat.mul_pos h₁.1 h₂.1, Nat.one_pos, ?_⟩
  obtain ⟨k, hk₁, hk₂⟩ : ∃ k : Nat, -q₁ ≤ k ∧ -q₂ ≤ k :=
    ⟨(max (-q₁) (-q₂)).toNat, by omega, by omega⟩
  have hscaled₁ := h₁.scaled hk₁
  have hscaled₂ := h₂.scaled hk₂
  rw [inUnits_eq_iff (k := k + k) (by omega)]
  calc
    a * c * 1 * 2 ^ (k + k) = a * 2 ^ k * (c * 2 ^ k) := by ring
    _ = m₁ * b * 2 ^ (q₁ + k).toNat * (m₂ * d * 2 ^ (q₂ + k).toNat) := by rw [hscaled₁, hscaled₂]
    _ = m₁ * m₂ * (b * d) * 2 ^ ((q₁ + k).toNat + (q₂ + k).toNat) := by ring
    _ = m₁ * m₂ * (b * d) * 2 ^ (q₁ + q₂ + (k + k : Nat)).toNat := by
      rw [show (q₁ + k).toNat + (q₂ + k).toNat = (q₁ + q₂ + (k + k : Nat)).toNat by omega]

/-- The last place of a product is not below that of the exact one. -/
theorem InFormat.le_lastPlace_mul (hf₁ : InFormat m₁ q₁) (hf₂ : InFormat m₂ q₂)
    (h : Counts (a * c) (b * d) (q₁ + q₂) (m₁ * m₂) 1) : q₁ + q₂ ≤ lastPlace (a * c) (b * d) := by
  have hlast : lastPlace (a * c) (b * d) = max (binade (a * c) (b * d) - 52) (-1074) := rfl
  obtain ⟨-, hnext⟩ := reaches_binade h.num_pos h.den_pos
  by_contra habove
  have hshort : ¬ Reaches (a * c) (b * d) (q₁ + q₂ + (52 : Nat)) := fun hreach =>
    hnext (hreach.mono (by omega))
  rw [h.reaches_iff, Nat.div_one] at hshort
  rcases hf₁.place with ⟨hlong, -⟩ | hq₁
  · exact hshort (Nat.le_trans hlong (Nat.le_mul_of_pos_right m₁ hf₂.pos))
  · rcases hf₂.place with ⟨hlong, -⟩ | hq₂
    · exact hshort (Nat.le_trans hlong (Nat.le_mul_of_pos_left m₂ hf₁.pos))
    · omega

/-- The quotient of two numbers in units that give it two bits more than the format keeps. -/
theorem IsDyadic.counts_div (h₁ : IsDyadic a b m₁ q₁) (h₂ : IsDyadic c d m₂ q₂) (s : Nat) :
    Counts (a * d) (b * c) (q₁ - q₂ - s) (m₁ * 2 ^ s) m₂ := by
  refine ⟨Nat.mul_pos h₁.num_pos h₂.1, Nat.mul_pos h₁.1 h₂.num_pos, h₂.2.1, ?_⟩
  obtain ⟨k, hk₁, hk₂, hk⟩ : ∃ k : Nat, -q₁ ≤ k ∧ -q₂ ≤ k ∧ -(q₁ - q₂ - s) ≤ k :=
    ⟨(max (max (-q₁) (-q₂)) (-(q₁ - q₂ - s))).toNat, by omega, by omega, by omega⟩
  have hscaled₁ := h₁.scaled hk₁
  have hscaled₂ := h₂.scaled hk₂
  rw [inUnits_eq_iff hk]
  -- Both sides times the numerator of the divisor's scaled equation.
  apply Nat.eq_of_mul_eq_mul_right (Nat.two_pow_pos ((q₂ + k).toNat + k))
  calc
    a * d * m₂ * 2 ^ k * 2 ^ ((q₂ + k).toNat + k)
      = a * 2 ^ k * (m₂ * d * 2 ^ (q₂ + k).toNat) * 2 ^ k := by ring
    _ = m₁ * b * 2 ^ (q₁ + k).toNat * (c * 2 ^ k) * 2 ^ k := by rw [hscaled₁, hscaled₂]
    _ = m₁ * (b * c) * 2 ^ ((q₁ + k).toNat + k + k) := by ring
    _ = m₁ * (b * c) * 2 ^ (s + (q₁ - q₂ - s + k).toNat + ((q₂ + k).toNat + k)) := by
      rw [show (q₁ + k).toNat + k + k =
        s + (q₁ - q₂ - s + k).toNat + ((q₂ + k).toNat + k) by omega]
    _ = m₁ * 2 ^ s * (b * c) * 2 ^ (q₁ - q₂ - s + k).toNat * 2 ^ ((q₂ + k).toNat + k) := by ring

/-- A quotient is counted in units of the last place or smaller ones. -/
theorem InFormat.le_lastPlace_div (hf₁ : InFormat m₁ q₁) (hf₂ : InFormat m₂ q₂) {s : Nat}
    (h : Counts (a * d) (b * c) (q₁ - q₂ - s) (m₁ * 2 ^ s) m₂)
    (hs : q₁ - q₂ - s ≤ max (((m₁.log2 : Int) + 1 + q₁) - (m₂.log2 + 1 + q₂) - 53) (-1074)) :
    q₁ - q₂ - s ≤ lastPlace (a * d) (b * c) := by
  have hlast : lastPlace (a * d) (b * c) = max (binade (a * d) (b * c) - 52) (-1074) := rfl
  have hlow : 2 ^ m₁.log2 ≤ m₁ := Nat.log2_self_le (Nat.ne_of_gt hf₁.pos)
  have hhigh : m₂ < 2 ^ (m₂.log2 + 1) := Nat.lt_log2_self
  obtain ⟨-, hnext⟩ := reaches_binade h.num_pos h.den_pos
  by_contra habove
  obtain ⟨i, hi⟩ : ∃ i : Nat, (i : Int) + m₂.log2 + 1 = m₁.log2 + s :=
    ⟨((m₁.log2 : Int) + s - m₂.log2 - 1).toNat, by omega⟩
  have hshort : ¬ Reaches (a * d) (b * c) (q₁ - q₂ - s + i) := fun hreach =>
    hnext (hreach.mono (by omega))
  rw [h.reaches_iff, Nat.le_div_iff_mul_le hf₂.pos] at hshort
  apply hshort
  calc
    2 ^ i * m₂ ≤ 2 ^ i * 2 ^ (m₂.log2 + 1) := Nat.mul_le_mul_left _ (Nat.le_of_lt hhigh)
    _ = 2 ^ m₁.log2 * 2 ^ s := by
      rw [← Nat.pow_add, ← Nat.pow_add, show i + (m₂.log2 + 1) = m₁.log2 + s by omega]
    _ ≤ m₁ * 2 ^ s := Nat.mul_le_mul_right _ hlow

end

namespace HasValue
variable {x y : Float} {a b c d : Nat}

/-- The product of two numbers is the nearest one to the exact product. -/
theorem mul_eq (hx : HasValue x a b) (hy : HasValue y c d) : x * y = nearest (a * c) (b * d) := by
  obtain ⟨m₁, q₁, hf₁, hunpack₁, hdyadic₁⟩ := hx.exists_unpack
  obtain ⟨m₂, q₂, hf₂, hunpack₂, hdyadic₂⟩ := hy.exists_unpack
  have hproduct : x * y = ⟨Float.Model.pack (UnpackedFloat.mul format x.toModel.unpack
    y.toModel.unpack)⟩ := rfl
  have hcounts := hdyadic₁.counts_mul hdyadic₂
  have hround := toNat_pack_roundWithAccuracy hcounts (hf₁.le_lastPlace_mul hf₂ hcounts)
  rw [Nat.div_one, Nat.mod_one] at hround
  apply eq_nearest_of_toNat
  rw [hproduct, hunpack₁, hunpack₂]
  exact hround

/-- The quotient of two numbers is the nearest one to the exact quotient. -/
theorem div_eq (hx : HasValue x a b) (hy : HasValue y c d) : x / y = nearest (a * d) (b * c) := by
  obtain ⟨m₁, q₁, hf₁, hunpack₁, hdyadic₁⟩ := hx.exists_unpack
  obtain ⟨m₂, q₂, hf₂, hunpack₂, hdyadic₂⟩ := hy.exists_unpack
  have hquotient : x / y = ⟨Float.Model.pack (UnpackedFloat.div format x.toModel.unpack
    y.toModel.unpack)⟩ := rfl
  have htarget : Format.targetExponent format (totalExponent m₁ q₁ - totalExponent m₂ q₂) =
      max (((m₁.log2 : Int) + 1 + q₁) - (m₂.log2 + 1 + q₂) - 53) (-1074) := rfl
  obtain ⟨s, hs⟩ : ∃ s : Nat, min (q₁ - q₂)
      (Format.targetExponent format (totalExponent m₁ q₁ - totalExponent m₂ q₂)) = q₁ - q₂ - s :=
    ⟨(q₁ - q₂ - min (q₁ - q₂) (Format.targetExponent format
      (totalExponent m₁ q₁ - totalExponent m₂ q₂))).toNat, by omega⟩
  have hcore : divCore format m₁ q₁ m₂ q₂ =
      (m₁ * 2 ^ s / m₂, q₁ - q₂ - s, accuracyOfFraction (m₁ * 2 ^ s % m₂) m₂) := by
    rw [divCore, hs, show (q₁ - q₂ - (q₁ - q₂ - (s : Int))).toNat = s by omega, Nat.shiftLeft_eq]
  have hcounts := hdyadic₁.counts_div hdyadic₂ s
  have hround := toNat_pack_roundWithAccuracy hcounts
    (hf₁.le_lastPlace_div hf₂ hcounts (by rw [← htarget, ← hs]; exact Int.min_le_right _ _))
  apply eq_nearest_of_toNat
  rw [hquotient, hunpack₁, hunpack₂, UnpackedFloat.div, hcore]
  exact hround

end HasValue

/-! ## Numbers that are exact -/

theorem IsDyadic.shift {num den m : Nat} {q : Int} (h : IsDyadic num den m q) (s : Nat) :
    IsDyadic num den (m * 2 ^ s) (q - s) := by
  refine ⟨h.1, Nat.mul_pos h.2.1 (Nat.two_pow_pos s), ?_⟩
  obtain ⟨k, hkq, hk⟩ : ∃ k : Nat, -q ≤ k ∧ -(q - s) ≤ k :=
    ⟨(max (-q) (-(q - s))).toNat, by omega, by omega⟩
  rw [inUnits_eq_mul_iff hk, h.scaled hkq, show (q + k).toNat = s + (q - s + k).toNat by omega, Nat.pow_add]
  ring

/-- A short mantissa is made as long as the format has it, or as the exponent allows. -/
theorem IsDyadic.exists_inFormat {num den m : Nat} {q : Int} (h : IsDyadic num den m q)
    (hm : m < 2 ^ 53) (hlow : -1074 ≤ q) :
    ∃ m' q', IsDyadic num den m' q' ∧ InFormat m' q' ∧ q' ≤ q := by
  have hlog : m.log2 < 53 := (Nat.log2_lt (Nat.ne_of_gt h.2.1)).mpr hm
  obtain ⟨s, hs, hplace⟩ : ∃ s : Nat, m.log2 + s ≤ 52 ∧ (m.log2 + s = 52 ∧ -1074 ≤ q - s ∨
      q - s = -1074) :=
    ⟨min (52 - m.log2) (q + 1074).toNat, by omega, by omega⟩
  refine ⟨m * 2 ^ s, q - s, h.shift s, ⟨(h.shift s).2.1, ?_, ?_⟩, by omega⟩
  · calc
      m * 2 ^ s < 2 ^ (m.log2 + 1) * 2 ^ s :=
        (Nat.mul_lt_mul_right (Nat.two_pow_pos s)).mpr Nat.lt_log2_self
      _ = 2 ^ (m.log2 + 1 + s) := (Nat.pow_add ..).symm
      _ ≤ 2 ^ 53 := Nat.pow_le_pow_right (by decide) (by omega)
  · rcases hplace with ⟨hfull, hq⟩ | hq
    · refine .inl ⟨?_, hq⟩
      rw [← hfull, Nat.pow_add]
      exact Nat.mul_le_mul_right _ (Nat.log2_self_le (Nat.ne_of_gt h.2.1))
    · exact .inr hq

/-- The code that packing gives a mantissa and an exponent stands for their product. -/
theorem InFormat.hasValue {x : Float} {num den m : Nat} {q : Int} (hformat : InFormat m q)
    (hdyadic : IsDyadic num den m q) (hcode : x.toBits.toNat = (q + 1074).toNat * 2 ^ 52 + m)
    (hfinite : x.toBits.toNat < infinityCode) : HasValue x num den := by
  have hlt : x.toBits.toNat < 2 ^ 63 := Nat.lt_trans hfinite (by decide)
  have hmagnitude : magnitudeCode x = x.toBits.toNat := by
    rw [magnitudeCode_eq, Nat.mod_eq_of_lt hlt]
  constructor
  case finite => rwa [isFinite_iff, hmagnitude]
  case positive => rwa [← Bool.not_eq_true, isNegative_iff, Nat.not_le]
  case dyadic =>
    rw [hmagnitude, hcode, hformat.magnitude_eq]
    exact hdyadic

/-- A quotient that is a short mantissa times a power of two is the value of its nearest
number. -/
theorem hasValue_nearest {num den m : Nat} {q : Int} (h : IsDyadic num den m q) (hm : m < 2 ^ 53)
    (hlow : -1074 ≤ q) (hhigh : q ≤ 971) : HasValue (nearest num den) num den := by
  obtain ⟨m', q', hdyadic, hformat, hq⟩ := h.exists_inFormat hm hlow
  have hlt := hformat.lt
  have hcode : nearestCode num den = (q' + 1074).toNat * 2 ^ 52 + m' := by
    rw [hdyadic.nearestCode_eq hlt hformat.place, infinityCode_eq, Nat.min_eq_left (by omega)]
  apply hformat.hasValue hdyadic
  · rw [toNat_toBits_nearest, hcode]
  · rw [toNat_toBits_nearest, hcode, infinityCode_eq]
    omega

/-! ## Natural numbers -/

theorem isDyadic_natural {m : Nat} (hm : 0 < m) (i : Nat) : IsDyadic (m * 2 ^ i) 1 m i := by
  refine ⟨Nat.one_pos, hm, ?_⟩
  rw [inUnits_of_nonneg (Int.natCast_nonneg i)]
  dsimp only
  rw [Int.toNat_natCast, Nat.one_mul]

theorem hasValue_natural {m : Nat} (hm : 0 < m) (hle : m ≤ 2 ^ 53) : HasValue (nearest m 1) m 1 := by
  rcases Nat.lt_or_eq_of_le hle with hlt | rfl
  · have hdyadic := isDyadic_natural hm 0
    rw [Nat.pow_zero, Nat.mul_one] at hdyadic
    exact hasValue_nearest hdyadic hlt (by omega) (by omega)
  · have hdyadic := isDyadic_natural Nat.one_pos 53
    rw [Nat.one_mul] at hdyadic
    exact hasValue_nearest hdyadic (by decide) (by omega) (by omega)

/-- Rounding adds half a unit at most. -/
theorem roundHalfEven_mul_le (num den : Nat) : 2 * (roundHalfEven num den * den) ≤ 2 * num + den := by
  have hsplit := Nat.div_add_mod num den
  have hfloor : den * (num / den) = num / den * den := Nat.mul_comm ..
  have hnext : (num / den + 1) * den = num / den * den + den := Nat.succ_mul ..
  unfold roundHalfEven
  dsimp only
  split_ifs <;> omega

/-- Rounding a natural number adds at most one part in `2 ^ 53`. -/
theorem exists_hasValue_nearest {num : Nat} (hpos : 0 < num) (hlimit : num < overflowLimit) :
    ∃ v, HasValue (nearest num 1) v 1 ∧ v * 2 ^ 53 ≤ num * (2 ^ 53 + 1) := by
  rcases Nat.lt_or_ge num (2 ^ 53) with hshort | hlong
  · exact ⟨num, hasValue_natural hpos (Nat.le_of_lt hshort), by omega⟩
  · obtain ⟨hreach, hnext⟩ := reaches_binade hpos Nat.one_pos
    have hlarge : Reaches num 1 53 := by
      rw [reaches_iff (k := 0) (by omega)]
      simpa using hlong
    have hbinade : 53 ≤ binade num 1 := by
      by_contra hbelow
      exact hnext (hlarge.mono (by omega))
    obtain ⟨i, hi⟩ : ∃ i : Nat, lastPlace num 1 = i :=
      ⟨(lastPlace num 1).toNat, by unfold lastPlace; omega⟩
    have hplace : binade num 1 = i + (52 : Nat) := by
      unfold lastPlace at hi
      omega
    have hunits : inUnits num 1 i = (num, 2 ^ i) := by
      rw [inUnits_of_nonneg (Int.natCast_nonneg i), Int.toNat_natCast, Nat.one_mul]
    obtain ⟨hcarry, hlow⟩ := roundHalfEven_lastPlace hpos Nat.one_pos
    have hfinite := (nearestCode_lt_iff Nat.one_pos).mpr ((Nat.mul_one overflowLimit).symm ▸ hlimit)
    have hcode := nearestCode_of_pos hpos hi rfl
    rw [hplace, reaches_add_iff] at hreach
    rw [hi] at hcarry hlow
    rw [hunits] at hcarry hlow hreach hcode
    dsimp only at hcarry hlow hreach hcode
    have herror := roundHalfEven_mul_le num (2 ^ i)
    generalize roundHalfEven num (2 ^ i) = count at *
    refine ⟨count * 2 ^ i, ?_, ?_⟩
    · rw [hcode] at hfinite
      have hbits := (toNat_toBits_nearest num 1).trans hcode
      rw [Nat.min_eq_left (by omega)] at hbits hfinite
      rw [← hbits] at hfinite
      rcases Nat.lt_or_eq_of_le hcarry with hlt | hcarried
      · have hcount := hlow.resolve_right (by omega)
        have hpositive : 0 < count := Nat.lt_of_lt_of_le (Nat.two_pow_pos 52) hcount
        have hformat : InFormat count (i : Int) := ⟨hpositive, hlt, .inl ⟨hcount, by omega⟩⟩
        exact hformat.hasValue (isDyadic_natural hpositive i) hbits hfinite
      · -- The carry makes the mantissa a power of two again, one place higher.
        have hdyadic := isDyadic_natural (Nat.two_pow_pos 52) (i + 1)
        rw [show 2 ^ 52 * 2 ^ (i + 1) = 2 ^ 53 * 2 ^ i by ring, ← hcarried] at hdyadic
        have hformat : InFormat (2 ^ 52) ((i + 1 : Nat) : Int) :=
          ⟨Nat.two_pow_pos 52, by decide, .inl ⟨Nat.le_refl _, by omega⟩⟩
        refine hformat.hasValue hdyadic ?_ hfinite
        rw [hbits, hcarried]
        omega
    · generalize count * 2 ^ i = v at *
      generalize 2 ^ i = unit at *
      omega

end Equate.Number
