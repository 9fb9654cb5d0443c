import Mathlib
import Equate.Number.Rounding

/-!
# Numbers that need no rounding

A quotient that is a mantissa of at most fifty-three bits times a power of two is itself a
binary64 number, and the nearest one is that number. The power of two of the last place is
characterised by comparisons in natural numbers, both sides scaled by the same power.
-/
namespace Equate.Number

/-- The quotient is at least `2 ^ e`. -/
def Reaches (num den : Nat) (e : Int) : Prop := (inUnits num den e).2 ≤ (inUnits num den e).1

/-- The comparison with both sides scaled by `2 ^ k`. -/
theorem reaches_iff {num den k : Nat} {e : Int} (h : -e ≤ k) :
    Reaches num den e ↔ den * 2 ^ (e + k).toNat ≤ num * 2 ^ k := by
  unfold Reaches inUnits
  split
  · next he =>
    show den * 2 ^ e.toNat ≤ num ↔ _
    rw [show (e + k).toNat = e.toNat + k by omega, Nat.pow_add, ← Nat.mul_assoc]
    exact (Nat.mul_le_mul_right_iff (Nat.two_pow_pos k)).symm
  · next he =>
    show den ≤ num * 2 ^ (-e).toNat ↔ _
    have hk : 2 ^ k = 2 ^ (-e).toNat * 2 ^ (e + k).toNat := by
      rw [← Nat.pow_add]
      congr 1
      omega
    rw [hk, ← Nat.mul_assoc]
    exact (Nat.mul_le_mul_right_iff (Nat.two_pow_pos _)).symm

theorem Reaches.mono {num den : Nat} {e e' : Int} (h : Reaches num den e') (hle : e ≤ e') :
    Reaches num den e := by
  obtain ⟨k, hk, hk'⟩ : ∃ k : Nat, -e ≤ k ∧ -e' ≤ k := ⟨(max (-e) (-e')).toNat, by omega, by omega⟩
  rw [reaches_iff hk'] at h
  rw [reaches_iff hk]
  exact Nat.le_trans (Nat.mul_le_mul_left den (Nat.pow_le_pow_right (by decide) (by omega))) h

/-- Reaching a power of two in units of a smaller one. -/
theorem reaches_add_iff {num den i : Nat} {e : Int} :
    Reaches num den (e + i) ↔ 2 ^ i * (inUnits num den e).2 ≤ (inUnits num den e).1 := by
  rw [reaches_iff (k := (-e).toNat) (by omega)]
  unfold inUnits
  split
  · next he =>
    show _ ↔ 2 ^ i * (den * 2 ^ e.toNat) ≤ num
    rw [show (-e).toNat = 0 by omega, show (e + i + (0 : Nat)).toNat = e.toNat + i by omega,
      Nat.pow_add, Nat.pow_zero, Nat.mul_one]
    exact iff_of_eq (congrArg (· ≤ num) (by ring))
  · next he =>
    show _ ↔ 2 ^ i * den ≤ num * 2 ^ (-e).toNat
    rw [show (e + i + ((-e).toNat : Nat)).toNat = i by omega, Nat.mul_comm den]

theorem inUnits_of_nonneg {num den : Nat} {e : Int} (h : 0 ≤ e) :
    inUnits num den e = (num, den * 2 ^ e.toNat) :=
  if_pos h

theorem inUnits_pos (num : Nat) {den : Nat} (hden : 0 < den) (e : Int) : 0 < (inUnits num den e).2 := by
  unfold inUnits
  split
  · exact Nat.mul_pos hden (Nat.two_pow_pos _)
  · exact hden

/-- A quotient in units of `2 ^ e`, with both sides scaled by `2 ^ k`. -/
theorem inUnits_eq_iff {num den n d k : Nat} {e : Int} (h : -e ≤ k) :
    (inUnits num den e).1 * d = n * (inUnits num den e).2 ↔
      num * d * 2 ^ k = n * den * 2 ^ (e + k).toNat := by
  unfold inUnits
  split
  · next he =>
    show num * d = n * (den * 2 ^ e.toNat) ↔ _
    rw [show (e + k).toNat = e.toNat + k by omega, Nat.pow_add, ← Nat.mul_assoc, ← Nat.mul_assoc]
    exact (Nat.mul_left_inj (Nat.ne_of_gt (Nat.two_pow_pos k))).symm
  · next he =>
    show num * 2 ^ (-e).toNat * d = n * den ↔ _
    have hk : 2 ^ k = 2 ^ (-e).toNat * 2 ^ (e + k).toNat := by
      rw [← Nat.pow_add]
      congr 1
      omega
    rw [hk, ← Nat.mul_assoc, Nat.mul_right_comm num]
    exact (Nat.mul_left_inj (Nat.ne_of_gt (Nat.two_pow_pos _))).symm

theorem inUnits_eq_mul_iff {num den n k : Nat} {e : Int} (h : -e ≤ k) :
    (inUnits num den e).1 = n * (inUnits num den e).2 ↔
      num * 2 ^ k = n * den * 2 ^ (e + k).toNat := by
  simpa using inUnits_eq_iff (d := 1) (n := n) h

/-- The binade of a quotient is reached, and the next one is not. -/
theorem reaches_binade {num den : Nat} (hnum : 0 < num) (hden : 0 < den) :
    Reaches num den (binade num den) ∧ ¬ Reaches num den (binade num den + 1) := by
  have hlow : 2 ^ num.log2 ≤ num := Nat.log2_self_le (Nat.ne_of_gt hnum)
  have hhigh : num < 2 ^ (num.log2 + 1) := Nat.lt_log2_self
  have hlow' : 2 ^ den.log2 ≤ den := Nat.log2_self_le (Nat.ne_of_gt hden)
  have hhigh' : den < 2 ^ (den.log2 + 1) := Nat.lt_log2_self
  have hbelow : Reaches num den ((num.log2 : Int) - den.log2 - 1) := by
    rw [reaches_iff (k := den.log2 + 1) (by omega),
      show ((num.log2 : Int) - den.log2 - 1 + (den.log2 + 1 : Nat)).toNat = num.log2 by omega,
      Nat.mul_comm]
    exact Nat.mul_le_mul hlow (Nat.le_of_lt hhigh')
  have habove : ¬ Reaches num den ((num.log2 : Int) - den.log2 + 1) := by
    rw [reaches_iff (k := den.log2) (by omega),
      show ((num.log2 : Int) - den.log2 + 1 + (den.log2 : Nat)).toNat = num.log2 + 1 by omega,
      Nat.not_le, Nat.mul_comm den]
    exact Nat.mul_lt_mul_of_lt_of_le hhigh hlow' hden
  unfold binade
  dsimp only
  split
  · next h =>
    refine ⟨hbelow, ?_⟩
    rw [Int.sub_add_cancel]
    exact Nat.not_le.mpr h
  · next h => exact ⟨Nat.not_lt.mp h, habove⟩

/-- The binade is known by the powers of two on its two sides. -/
theorem binade_eq_of_reaches {num den : Nat} {b : Int} (hnum : 0 < num) (hden : 0 < den)
    (h : Reaches num den b) (hnot : ¬ Reaches num den (b + 1)) : binade num den = b := by
  obtain ⟨hreach, hnext⟩ := reaches_binade hnum hden
  rcases Int.lt_trichotomy (binade num den) b with hlt | heq | hgt
  · exact absurd (h.mono (by omega)) hnext
  · exact heq
  · exact absurd (hreach.mono (by omega)) hnot

/-- The quotient is exactly `m * 2 ^ q`. -/
def IsDyadic (num den m : Nat) (q : Int) : Prop :=
  0 < den ∧ 0 < m ∧ (inUnits num den q).1 = m * (inUnits num den q).2

section Dyadic
variable {num den m : Nat} {q : Int} (h : IsDyadic num den m q)
include h

theorem IsDyadic.num_pos : 0 < num := by
  obtain ⟨hden, hm, heq⟩ := h
  refine Nat.pos_of_ne_zero fun hzero => ?_
  subst hzero
  unfold inUnits at heq
  split at heq
  · have := Nat.mul_pos hm (Nat.mul_pos hden (Nat.two_pow_pos q.toNat))
    exact absurd heq (Nat.ne_of_lt this)
  · have hpos := Nat.mul_pos hm hden
    rw [Nat.zero_mul] at heq
    exact absurd heq (Nat.ne_of_lt hpos)

/-- The equation with both sides scaled by `2 ^ k`. -/
theorem IsDyadic.scaled {k : Nat} (hk : -q ≤ k) : num * 2 ^ k = m * den * 2 ^ (q + k).toNat :=
  (inUnits_eq_mul_iff hk).mp h.2.2

theorem IsDyadic.reaches_iff (i : Nat) : Reaches num den (q + i) ↔ 2 ^ i ≤ m := by
  rw [reaches_add_iff, h.2.2]
  exact Nat.mul_le_mul_right_iff (inUnits_pos num h.1 q)

theorem IsDyadic.binade_eq : binade num den = m.log2 + q := by
  rw [Int.add_comm]
  apply binade_eq_of_reaches h.num_pos h.1
  · rw [h.reaches_iff]
    exact Nat.log2_self_le (Nat.ne_of_gt h.2.1)
  · rw [Int.add_assoc, show (m.log2 : Int) + 1 = (m.log2 + 1 : Nat) from rfl, h.reaches_iff,
      Nat.not_le]
    exact Nat.lt_log2_self

/-- With a mantissa as long as the format allows, or with the smallest exponent. -/
theorem IsDyadic.lastPlace_eq (hm : m < 2 ^ 53) (hq : 2 ^ 52 ≤ m ∧ -1074 ≤ q ∨ q = -1074) :
    lastPlace num den = q := by
  have hlog : m.log2 < 53 := (Nat.log2_lt (Nat.ne_of_gt h.2.1)).mpr hm
  have hnormal : 2 ^ 52 ≤ m → 52 ≤ m.log2 := (Nat.le_log2 (Nat.ne_of_gt h.2.1)).mpr
  unfold lastPlace
  rw [h.binade_eq]
  rcases hq with ⟨hm, hq⟩ | rfl
  · have := hnormal hm
    omega
  · omega

theorem IsDyadic.roundHalfEven_eq : roundHalfEven (inUnits num den q).1 (inUnits num den q).2 = m := by
  obtain ⟨hden, -, heq⟩ := h
  have hpos := inUnits_pos num hden q
  rw [heq, roundHalfEven, Nat.mul_mod_left, Nat.mul_div_left m hpos]
  exact if_pos hpos

theorem IsDyadic.nearestCode_eq (hm : m < 2 ^ 53) (hq : 2 ^ 52 ≤ m ∧ -1074 ≤ q ∨ q = -1074) :
    nearestCode num den = min ((q + 1074).toNat * 2 ^ 52 + m) infinityCode := by
  unfold nearestCode
  rw [if_neg (Nat.ne_of_gt h.num_pos), h.lastPlace_eq hm hq]
  show min (_ + roundHalfEven (inUnits num den q).1 (inUnits num den q).2) _ = _
  rw [h.roundHalfEven_eq, show Nat.pow 2 52 = 2 ^ 52 from rfl]

end Dyadic

/-- The magnitude of a finite code and the code of that magnitude. -/
theorem nearestCode_magnitude {num den code : Nat} (hcode : code < infinityCode)
    (h : IsDyadic num den (magnitude code).1 (magnitude code).2) : nearestCode num den = code := by
  rw [infinityCode] at hcode
  have hp : Nat.pow 2 52 = 2 ^ 52 := rfl
  rw [hp] at hcode
  have hcases : magnitude code = (code, -1074) ∧ code < 2 ^ 52 ∨
      magnitude code = (2 ^ 52 + code % 2 ^ 52, ((code / 2 ^ 52 : Nat) : Int) - 1075) ∧
        2 ^ 52 ≤ code := by
    unfold magnitude
    rw [hp]
    split
    · next h => exact .inl ⟨rfl, h⟩
    · next h => exact .inr ⟨rfl, Nat.not_lt.mp h⟩
  rcases hcases with ⟨hmag, hlt⟩ | ⟨hmag, hge⟩
  · rw [hmag] at h
    rw [h.nearestCode_eq (by omega) (.inr rfl), infinityCode, hp]
    omega
  · rw [hmag] at h
    rw [h.nearestCode_eq (by omega) (.inl (by omega)), infinityCode, hp]
    omega

/-!
## Rounding looks at the quotient alone

Two fractions of the same value have the same nearest number. The binade is the one power
of two that is reached while the next is not, and rounding in units of the last place
compares the remainder with the denominator, so nothing depends on common factors.
-/

theorem roundHalfEven_scale (num : Nat) {den k : Nat} (hk : 0 < k) :
    roundHalfEven (num * k) (den * k) = roundHalfEven num den := by
  have hbelow : 2 * (num % den * k) < den * k ↔ 2 * (num % den) < den := by
    rw [← Nat.mul_assoc]
    exact Nat.mul_lt_mul_right hk
  have habove : den * k < 2 * (num % den * k) ↔ den < 2 * (num % den) := by
    rw [← Nat.mul_assoc]
    exact Nat.mul_lt_mul_right hk
  unfold roundHalfEven
  rw [Nat.mul_div_mul_right num den hk, Nat.mul_mod_mul_right]
  simp only [hbelow, habove]

section
variable {num den num' den' : Nat} (hden : 0 < den) (hden' : 0 < den')
variable (hratio : num * den' = num' * den)
include hden hden' hratio

theorem roundHalfEven_congr : roundHalfEven num den = roundHalfEven num' den' := by
  calc
    roundHalfEven num den = roundHalfEven (num * den') (den * den') :=
      (roundHalfEven_scale num hden').symm
    _ = roundHalfEven (num' * den) (den' * den) := by rw [hratio, Nat.mul_comm den]
    _ = roundHalfEven num' den' := roundHalfEven_scale num' hden

theorem inUnits_congr (e : Int) :
    0 < (inUnits num den e).2 ∧ 0 < (inUnits num' den' e).2 ∧
      (inUnits num den e).1 * (inUnits num' den' e).2 =
        (inUnits num' den' e).1 * (inUnits num den e).2 := by
  unfold inUnits
  split
  · refine ⟨Nat.mul_pos hden (Nat.two_pow_pos _), Nat.mul_pos hden' (Nat.two_pow_pos _), ?_⟩
    dsimp only
    rw [← Nat.mul_assoc, ← Nat.mul_assoc, hratio]
  · refine ⟨hden, hden', ?_⟩
    dsimp only
    rw [Nat.mul_right_comm, hratio, Nat.mul_right_comm]

theorem reaches_congr (e : Int) : Reaches num den e ↔ Reaches num' den' e := by
  obtain ⟨hpos, hpos', hcross⟩ := inUnits_congr hden hden' hratio e
  unfold Reaches
  calc
    _ ↔ (inUnits num den e).2 * (inUnits num' den' e).2 ≤
        (inUnits num den e).1 * (inUnits num' den' e).2 := (Nat.mul_le_mul_right_iff hpos').symm
    _ ↔ (inUnits num' den' e).2 * (inUnits num den e).2 ≤
        (inUnits num' den' e).1 * (inUnits num den e).2 := by rw [hcross, Nat.mul_comm]
    _ ↔ _ := Nat.mul_le_mul_right_iff hpos

end

/-- The code of a nonzero number counts its units of the last place. -/
theorem nearestCode_of_pos {num den : Nat} {t : Int} {count : Nat} (hnum : 0 < num)
    (hplace : lastPlace num den = t)
    (hcount : roundHalfEven (inUnits num den t).1 (inUnits num den t).2 = count) :
    nearestCode num den = min ((t + 1074).toNat * 2 ^ 52 + count) infinityCode := by
  subst hplace hcount
  exact if_neg (Nat.ne_of_gt hnum)

theorem nearestCode_congr {num den num' den' : Nat} (hden : 0 < den) (hden' : 0 < den')
    (hratio : num * den' = num' * den) : nearestCode num den = nearestCode num' den' := by
  rcases Nat.eq_zero_or_pos num with rfl | hnum
  · have hzero : num' = 0 := by
      rw [Nat.zero_mul] at hratio
      exact (Nat.mul_eq_zero.mp hratio.symm).resolve_right (Nat.ne_of_gt hden)
    rw [hzero]
    exact (if_pos rfl).trans (if_pos rfl).symm
  · have hnum' : 0 < num' := by
      have hpos : 0 < num' * den := hratio ▸ Nat.mul_pos hnum hden'
      exact Nat.pos_of_mul_pos_right hpos
    obtain ⟨hreach, hnext⟩ := reaches_binade hnum hden
    rw [reaches_congr hden hden' hratio] at hreach hnext
    have hplace : lastPlace num den = lastPlace num' den' := by
      rw [lastPlace, lastPlace, binade_eq_of_reaches hnum' hden' hreach hnext]
    obtain ⟨hpos, hpos', hcross⟩ := inUnits_congr hden hden' hratio (lastPlace num' den')
    rw [nearestCode_of_pos hnum hplace (roundHalfEven_congr hpos hpos' hcross),
      nearestCode_of_pos hnum' rfl rfl]

end Equate.Number
