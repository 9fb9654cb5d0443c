import Equate.Proofs.Number.Value

/-!
# Differences and how large they are

The difference of two positive numbers is rounded once. It is exact unless it is larger than the
smaller of the two, and its sign is all that changes when the two are exchanged. So the relative
difference of a number to a positive one is known exactly while it is small: it is at most a bound
exactly if the true relative difference is rounded to the bound or less.
-/
namespace Equate.Number
open Float.Model Float.Model.UnpackedFloat

/-! ## Rounding from both sides -/

/-- An exact mantissa is rounded to the nearest number, however short it is. -/
theorem toNat_pack_round {num den m : Nat} {e : Int} (h : IsDyadic num den m e) :
    (UnpackedFloat.pack format (round format .positive m e)).toNat = nearestCode num den := by
  have htarget : Format.targetExponent format (totalExponent m e) =
      max ((m.log2 : Int) + 1 + e - 53) (-1074) := rfl
  have hlast : lastPlace num den = max (binade num den - 52) (-1074) := rfl
  obtain ⟨s, hs⟩ : ∃ s : Nat, (e - Format.targetExponent format (totalExponent m e)).toNat = s := ⟨_, rfl⟩
  have hshift := h.shift s
  have hcounts : Counts num den (e - s) (m * 2 ^ s) 1 :=
    ⟨h.num_pos, h.1, Nat.one_pos, (Nat.mul_one _).trans hshift.2.2⟩
  have hround := toNat_pack_roundWithAccuracy hcounts (by rw [hlast, h.binade_eq]; omega)
  rw [Nat.div_one, Nat.mod_one] at hround
  have hdecrease : decreaseExponent m e (Format.targetExponent format (totalExponent m e)) =
      (m * 2 ^ s, e - s) := by rw [decreaseExponent, hs, Nat.shiftLeft_eq]
  rw [UnpackedFloat.round, hdecrease]
  exact hround

theorem neg_roundWithAccuracy (s : Sign) (m : Nat) (e : Int) (a : Accuracy) :
    roundWithAccuracy format (-s) m e a = (roundWithAccuracy format s m e a).neg := by
  unfold roundWithAccuracy
  dsimp only
  split <;> rfl

theorem round_negative (m : Nat) (e : Int) :
    round format .negative m e = (round format .positive m e).neg :=
  neg_roundWithAccuracy .positive _ _ _

/-- The opposite of a packed number is the packed opposite. -/
theorem unpack_pack_neg (u : UnpackedFloat) :
    UnpackedFloat.unpack format (UnpackedFloat.pack format u.neg) =
      (UnpackedFloat.unpack format (UnpackedFloat.pack format u)).neg := by
  cases u with
  | notANumber => rfl
  | infinity s => cases s <;> rfl
  | zero s => cases s <;> rfl
  | finite s m e hm =>
    simp only [UnpackedFloat.neg, UnpackedFloat.pack]
    split_ifs
    · cases s <;> rfl
    · exact (neg_unpack_packComponents _ _ _).symm
    · exact (neg_unpack_packComponents _ _ _).symm

theorem abs_neg (u : UnpackedFloat) : u.neg.abs = u.abs := by
  cases u <;> rfl

theorem neg_div {m n : Nat} {e d : Int} (hm : 0 < m) (hn : 0 < n) :
    UnpackedFloat.div format (.finite .negative m e hm) (.finite .positive n d hn) =
      (UnpackedFloat.div format (.finite .positive m e hm) (.finite .positive n d hn)).neg :=
  neg_roundWithAccuracy .positive _ _ _

theorem decreaseExponent_add (m k : Nat) (e : Int) : decreaseExponent m (e + k) e = (m * 2 ^ k, e) := by
  rw [decreaseExponent, show (e + k - e).toNat = k by omega, Nat.shiftLeft_eq]
  exact Prod.ext rfl (by dsimp only; omega)

theorem decreaseExponent_self (m : Nat) (e : Int) : decreaseExponent m e e = (m, e) := by
  have h := decreaseExponent_add m 0 e
  rwa [Nat.cast_zero, Int.add_zero, Nat.pow_zero, Nat.mul_one] at h

section
variable {m n k : Nat} {e : Int} (hm : 0 < m) (hn : 0 < n) (hlt : n < m * 2 ^ k)
include hlt

theorem sub_finite : UnpackedFloat.sub format (.finite .positive m (e + k) hm) (.finite .positive n e hn) =
    UnpackedFloat.round format .positive (m * 2 ^ k - n) e := by
  have hcompare : compare ((m * 2 ^ k : Nat) - (n : Int)) 0 = .gt := Int.compare_eq_gt.mpr (by omega)
  simp only [UnpackedFloat.sub, show min (e + k) e = e by omega, decreaseExponent_add,
    decreaseExponent_self, Sign.apply]
  rw [UnpackedFloat.normalize, hcompare]
  dsimp only
  rw [show ((m * 2 ^ k : Nat) - (n : Int)).toNat = m * 2 ^ k - n by omega]

theorem sub_finite_swap : UnpackedFloat.sub format (.finite .positive n e hn) (.finite .positive m (e + k) hm) =
    (UnpackedFloat.round format .positive (m * 2 ^ k - n) e).neg := by
  have hcompare : compare ((n : Int) - (m * 2 ^ k : Nat)) 0 = .lt := Int.compare_eq_lt.mpr (by omega)
  simp only [UnpackedFloat.sub, show min e (e + k) = e by omega, decreaseExponent_add,
    decreaseExponent_self, Sign.apply]
  rw [UnpackedFloat.normalize, hcompare, ← round_negative]
  dsimp only
  rw [show (-((n : Int) - (m * 2 ^ k : Nat))).toNat = m * 2 ^ k - n by omega]

end

/-! ## Differences -/

namespace IsPositive
variable {x y : Float}

theorem exists_unpack (h : IsPositive x) :
    ∃ hm, x.toModel.unpack = .finite .positive (magnitude (magnitudeCode x)).1
      (magnitude (magnitudeCode x)).2 hm := by
  obtain ⟨hsign, hcode, -⟩ := isPositive_iff.mp h
  exact ⟨_, unpack_eq h.1 hsign hcode.ne'⟩

/-- The difference of two numbers is the rounding of a mantissa, which is short unless the difference
is larger than the smaller number. Exchanged, it has the other sign. -/
theorem exists_sub (hx : IsPositive x) (hy : IsPositive y) (hlt : value y < value x) :
    ∃ m : Nat, ∃ e : Int, 0 < m ∧ -1074 ≤ e ∧ e ≤ 971 ∧ value x - value y = m * 2 ^ e ∧
      (2 ^ 53 ≤ m → value y < value x - value y) ∧
      x - y = ⟨Float.Model.pack (UnpackedFloat.round format .positive m e)⟩ ∧
      y - x = ⟨Float.Model.pack (UnpackedFloat.round format .positive m e).neg⟩ := by
  obtain ⟨hm, hxu⟩ := hx.exists_unpack
  obtain ⟨hn, hyu⟩ := hy.exists_unpack
  obtain ⟨hxcode, hxlow, hxlt, hxplace⟩ := magnitude_spec (magnitudeCode x)
  obtain ⟨hycode, hylow, hylt, hyplace⟩ := magnitude_spec (magnitudeCode y)
  have hfinite := (isPositive_iff.mp hy).2.2
  have hcodes := strictMono_codeValue.lt_iff_lt.mp hlt
  have hsub : ∀ u v : Float, u - v =
      ⟨Float.Model.pack (UnpackedFloat.sub format u.toModel.unpack v.toModel.unpack)⟩ := fun _ _ => rfl
  rw [infinityCode_eq] at hfinite
  rw [hsub x y, hsub y x, hxu, hyu]
  simp only [value, codeValue] at hlt ⊢
  generalize (magnitude (magnitudeCode x)).1 = m at *
  generalize (magnitude (magnitudeCode x)).2 = e' at *
  generalize (magnitude (magnitudeCode y)).1 = n at *
  generalize (magnitude (magnitudeCode y)).2 = e at *
  obtain ⟨k, rfl⟩ : ∃ k : Nat, e' = e + k := ⟨(e' - e).toNat, by omega⟩
  have hpow : (0 : ℚ) < 2 ^ e := zpow_pos (by norm_num) e
  have hscaled : (m : ℚ) * 2 ^ (e + k) = (m * 2 ^ k : Nat) * 2 ^ e := by
    rw [zpow_add₀ two_ne_zero, zpow_natCast]
    push_cast
    ring
  rw [hscaled, mul_lt_mul_iff_left₀ hpow, Nat.cast_lt] at hlt
  refine ⟨m * 2 ^ k - n, e, by omega, hylow, by omega, ?_, ?_, ?_, ?_⟩
  · rw [hscaled, Nat.cast_sub hlt.le, sub_mul]
  · intro hlong
    rw [hscaled, ← sub_mul, ← Nat.cast_sub hlt.le, mul_lt_mul_iff_left₀ hpow, Nat.cast_lt]
    omega
  · rw [sub_finite hm hn hlt]
  · rw [sub_finite_swap hm hn hlt]

section
variable (hx : IsPositive x) (hy : IsPositive y) (hlt : value y < value x)
include hx hy hlt

theorem sub_eq : x - y = rounded (value x - value y) := by
  obtain ⟨m, e, hm, -, -, hvalue, -, hsub, -⟩ := hx.exists_sub hy hlt
  rw [hsub]
  refine eq_nearest_of_toNat (toNat_pack_round (isDyadic_iff.mpr ⟨Rat.den_pos _, hm, ?_⟩))
  rw [num_toNat_div_den (sub_nonneg.mpr hlt.le), hvalue]

theorem sub : IsPositive (x - y) := by
  obtain ⟨m, e, hm, hlow, -, hvalue, -⟩ := hx.exists_sub hy hlt
  have hxrange := (isPositive_rounded_iff hx.value_pos.le).mp (hx.rounded_value.symm ▸ hx)
  rw [hx.sub_eq hy hlt, isPositive_rounded_iff (sub_nonneg.mpr hlt.le)]
  refine ⟨?_, lt_trans (sub_lt_self _ hy.value_pos) hxrange.2⟩
  have hm' : (1 : ℚ) ≤ m := by exact_mod_cast hm
  rw [hvalue]
  calc
    (2 : ℚ) ^ (-1075 : Int) < 2 ^ e := zpow_lt_zpow_right₀ (by norm_num) (by omega)
    _ ≤ m * 2 ^ e := le_mul_of_one_le_left (zpow_pos (by norm_num) e).le hm'

/-- A difference is exact, or it is larger than the smaller number, and then not halved by
rounding. -/
theorem value_sub : value (x - y) = value x - value y ∨
    value y < value x - value y ∧ (value x - value y) / 2 < value (x - y) := by
  obtain ⟨m, e, hm, hlow, hhigh, hvalue, hlong, -⟩ := hx.exists_sub hy hlt
  have hpositive := hx.sub hy hlt
  rw [hx.sub_eq hy hlt] at hpositive ⊢
  rcases Nat.lt_or_ge m (2 ^ 53) with hshort | hge
  · left
    have hdyadic : IsDyadic (value x - value y).num.toNat (value x - value y).den m e :=
      isDyadic_iff.mpr ⟨Rat.den_pos _, hm, by rw [num_toNat_div_den (sub_nonneg.mpr hlt.le), hvalue]⟩
    rw [rounded, ← (hasValue_iff.mp (hasValue_nearest hdyadic hshort hlow hhigh)).2.2,
      num_toNat_div_den (sub_nonneg.mpr hlt.le)]
  · right
    have hm' : ((2 ^ 53 : Nat) : ℚ) ≤ m := Nat.cast_le.mpr hge
    have hnormal : leastNormal ≤ value x - value y := by
      rw [hvalue, leastNormal]
      calc
        (2 : ℚ) ^ (-1022 : Int) ≤ 2 ^ (52 + e) := zpow_le_zpow_right₀ (by norm_num) (by omega)
        _ = 2 ^ 52 * 2 ^ e := by rw [zpow_add₀ two_ne_zero, zpow_ofNat]
        _ ≤ m * 2 ^ e := by
          refine mul_le_mul_of_nonneg_right ?_ (zpow_pos (by norm_num) e).le
          push_cast at hm'
          linarith only [hm']
    have herror := (abs_le.mp (abs_value_rounded_sub_le hnormal hpositive)).1
    have hsmall : (2 : ℚ) ^ (-53 : Int) < 1 / 2 := by norm_num
    have hpos : 0 < value x - value y := sub_pos.mpr hlt
    have hpart := mul_lt_mul_of_pos_right hsmall hpos
    generalize (2 : ℚ) ^ (-53 : Int) * (value x - value y) = error at herror hpart
    exact ⟨hlong hge, by linarith only [herror, hpart]⟩

end

end IsPositive

/-! ## Relative differences -/

theorem eq_pack_unpack (x : Float) : (⟨Float.Model.pack x.toModel.unpack⟩ : Float) = x := by
  have hpack : UnpackedFloat.pack format x.toModel.unpack = x.toBits.toBitVec :=
    pack_unpack_of_valid x.toModel.valid
  exact Float.toBits_inj.mp (congrArg UInt64.ofBitVec hpack)

/-- A number without a minus sign is its own size. -/
theorem abs_of_unsigned {x : Float} (hx : isNegative x = false) : x.abs = x := by
  have hunsigned := unsigned_unpack hx
  have habs : x.toModel.unpack.abs = x.toModel.unpack := by
    cases hu : x.toModel.unpack with
    | notANumber => rfl
    | infinity s => rw [hu] at hunsigned; cases hunsigned; rfl
    | zero s => rw [hu] at hunsigned; cases hunsigned; rfl
    | finite s m e hm => rw [hu] at hunsigned; cases hunsigned; rfl
  show (⟨Float.Model.pack x.toModel.unpack.abs⟩ : Float) = x
  rw [habs, eq_pack_unpack]

/-- The sign of a dividend does not matter for the size of the quotient. -/
theorem abs_neg_div {u : UnpackedFloat} {w q : Float} (hw : w = ⟨Float.Model.pack u⟩)
    (hpositive : IsPositive w) (hq : IsPositive q) :
    ((⟨Float.Model.pack u.neg⟩ : Float) / q).abs = w / q := by
  obtain ⟨hm, hwu⟩ := hpositive.exists_unpack
  obtain ⟨hn, hqu⟩ := hq.exists_unpack
  have hsign : isNegative (w / q) = false :=
    isNegative_div (isPositive_iff.mp hpositive).1 (isPositive_iff.mp hq).1
  have hneg : (⟨Float.Model.pack u.neg⟩ : Float).toModel.unpack = w.toModel.unpack.neg := by
    rw [hw]
    exact unpack_pack_neg u
  have hquotient : ((⟨Float.Model.pack u.neg⟩ : Float) / q).toModel.unpack = (w / q).toModel.unpack.neg := by
    show UnpackedFloat.unpack format (UnpackedFloat.pack format (UnpackedFloat.div format
      (⟨Float.Model.pack u.neg⟩ : Float).toModel.unpack q.toModel.unpack)) =
      (UnpackedFloat.unpack format (UnpackedFloat.pack format (UnpackedFloat.div format
        w.toModel.unpack q.toModel.unpack))).neg
    rw [hneg, hwu, hqu, ← unpack_pack_neg, ← neg_div]
    rfl
  have habs : ((⟨Float.Model.pack u.neg⟩ : Float) / q).abs = (w / q).abs := by
    apply Float.toBits_inj.mp
    show UInt64.ofBitVec (UnpackedFloat.pack format
        ((⟨Float.Model.pack u.neg⟩ : Float) / q).toModel.unpack.abs) =
      UInt64.ofBitVec (UnpackedFloat.pack format (w / q).toModel.unpack.abs)
    rw [hquotient, abs_neg]
  rw [habs, abs_of_unsigned hsign]

/-- Numbers are ordered as their codes. -/
theorem IsPositive.le_iff {x y : Float} (hx : IsPositive x) (hy : IsPositive y) :
    x ≤ y ↔ magnitudeCode x ≤ magnitudeCode y := by
  obtain ⟨hm, hxu⟩ := hx.exists_unpack
  obtain ⟨hn, hyu⟩ := hy.exists_unpack
  obtain ⟨hxcode, hxlow, hxlt, hxplace⟩ := magnitude_spec (magnitudeCode x)
  obtain ⟨hycode, hylow, hylt, hyplace⟩ := magnitude_spec (magnitudeCode y)
  rw [Number.le_iff, hxu, hyu]
  show ((compare _ _).then (compare _ _)).isLE = true ↔ _
  rw [Ordering.isLE_then_iff_or, Int.compare_eq_lt, Int.compare_eq_eq, Nat.isLE_compare]
  omega

theorem rounded_le_iff {v : ℚ} {b : Float} (hb : IsPositive b) :
    rounded v ≤ b ↔ magnitudeCode (rounded v) ≤ magnitudeCode b := by
  by_cases hpositive : IsPositive (rounded v)
  · exact hpositive.le_iff hb
  · obtain ⟨hn, hbu⟩ := hb.exists_unpack
    have hfinite := (isPositive_iff.mp hb).2.2
    have hsign := isNegative_rounded v
    rw [isPositive_iff, not_and, not_and] at hpositive
    have hends : magnitudeCode (rounded v) = 0 ∨ magnitudeCode (rounded v) = infinityCode := by
      have hle := magnitudeCode_rounded_le v
      rcases Nat.eq_zero_or_pos (magnitudeCode (rounded v)) with hzero | hpos
      · exact .inl hzero
      · exact .inr (Nat.le_antisymm hle (Nat.not_lt.mp (hpositive hsign hpos)))
    rcases hends with hzero | hinfinite
    · have heq : rounded v = 0 := eq_of_magnitudeCode_eq hsign hzero
      rw [hzero, heq, Number.le_iff, hbu]
      exact iff_of_true rfl (Nat.zero_le _)
    · have heq : rounded v = Float.ofBits infinityCode.toUInt64 :=
        eq_of_magnitudeCode_eq hsign hinfinite
      rw [hinfinite, heq, Number.le_iff, hbu]
      exact iff_of_false (fun h => by cases h) (Nat.not_le.mpr hfinite)

/-- A value that is rounded to a number or less: it lies below the middle to the next number, or it
is the middle and the code of the number is even. -/
def RoundsWithin (b : Float) (v : ℚ) : Prop :=
  v < middle (magnitudeCode b) ∨ v = middle (magnitudeCode b) ∧ magnitudeCode b % 2 = 0

/-- The relative difference of an undefined or infinite number to another is no better. -/
theorem unpack_abs_sub_div {q r : Float} (hq : IsPositive q) {u : UnpackedFloat}
    (hr : r.toModel.unpack = u) (hu : u = .notANumber ∨ u = .infinity .positive) :
    ((r - q) / q).abs.toModel.unpack = u := by
  obtain ⟨hm, hqu⟩ := hq.exists_unpack
  have hkeep : UnpackedFloat.unpack format (UnpackedFloat.pack format u) = u := by
    rcases hu with rfl | rfl <;> rfl
  have hsub : UnpackedFloat.sub format u q.toModel.unpack = u := by
    rw [hqu]
    rcases hu with rfl | rfl <;> rfl
  have hdiv : UnpackedFloat.div format u q.toModel.unpack = u := by
    rw [hqu]
    rcases hu with rfl | rfl <;> rfl
  have habs : u.abs = u := by
    rcases hu with rfl | rfl <;> rfl
  show UnpackedFloat.unpack format (UnpackedFloat.pack format (UnpackedFloat.abs (UnpackedFloat.unpack
    format (UnpackedFloat.pack format (UnpackedFloat.div format (UnpackedFloat.unpack format
      (UnpackedFloat.pack format (UnpackedFloat.sub format r.toModel.unpack q.toModel.unpack)))
        q.toModel.unpack))))) = u
  rw [hr, hsub, hkeep, hdiv, hkeep, habs, hkeep]

section
variable {q r b : Float} (hq : IsPositive q) (hb : IsPositive b)
include hq hb

theorem IsPositive.div_le_iff {w : Float} (hw : IsPositive w) :
    w / q ≤ b ↔ RoundsWithin b (value w / value q) := by
  have hquotient : 0 ≤ value w / value q := div_nonneg hw.value_pos.le hq.value_pos.le
  rw [hw.div_eq hq, rounded_le_iff hb,
    magnitudeCode_rounded_le_iff hquotient (isPositive_iff.mp hb).2.2, RoundsWithin]

variable (hsmall : middle (magnitudeCode b) < 1 / 4)
include hsmall

omit hq hb in
theorem not_roundsWithin {v : ℚ} (hv : 1 / 4 ≤ v) : ¬RoundsWithin b v := by
  rintro (h | ⟨h, -⟩) <;> linarith only [h, hv, hsmall]

/-- The relative size of a difference, from the difference as it is rounded. -/
theorem IsPositive.sub_div_le_iff {x y : Float} (hx : IsPositive x) (hy : IsPositive y)
    (hlt : value y < value x) (hhalf : value q / 2 ≤ max (value y) (value x - value y)) :
    (x - y) / q ≤ b ↔ RoundsWithin b ((value x - value y) / value q) := by
  have hqpos := hq.value_pos
  rw [IsPositive.div_le_iff hq hb (hx.sub hy hlt)]
  rcases hx.value_sub hy hlt with hexact | ⟨hlarge, herror⟩
  · rw [hexact]
  · rw [max_eq_right hlarge.le] at hhalf
    refine iff_of_false (not_roundsWithin hsmall ?_) (not_roundsWithin hsmall ?_)
    · rw [le_div_iff₀ hqpos]
      linarith only [hhalf, herror]
    · rw [le_div_iff₀ hqpos]
      linarith only [hhalf, hqpos]

/-- An undefined or infinite number is near to nothing, and neither is zero. -/
theorem not_abs_sub_div_le (hr : isNegative r = false) (hnot : ¬IsPositive r) :
    ¬((r - q) / q).abs ≤ b := by
  obtain ⟨hm, hqu⟩ := hq.exists_unpack
  obtain ⟨hn, hbu⟩ := hb.exists_unpack
  rcases degenerate_of_not_isPositive hr hnot with hu | hu | hu
  · exact not_le_of_unpack (unpack_abs_sub_div hq hu (.inl rfl))
  · rw [Number.le_iff, unpack_abs_sub_div hq hu (.inr rfl), hbu]
    exact Bool.false_ne_true
  · have hneg : r - q = ⟨Float.Model.pack q.toModel.unpack.neg⟩ := by
      show (⟨Float.Model.pack (UnpackedFloat.sub format r.toModel.unpack q.toModel.unpack)⟩ : Float) = _
      rw [hu, hqu]
      rfl
    rw [hneg, abs_neg_div (eq_pack_unpack q).symm hq hq, IsPositive.div_le_iff hq hb hq,
      div_self hq.value_pos.ne']
    exact not_roundsWithin hsmall (by norm_num)

/-- The relative difference of a number to a positive one is small exactly if the number is positive and
finite too and the true difference is rounded to the bound or less. -/
theorem abs_sub_div_le_iff (hr : isNegative r = false) :
    ((r - q) / q).abs ≤ b ↔ IsPositive r ∧ RoundsWithin b (|value r - value q| / value q) := by
  by_cases hpositive : IsPositive r
  · rw [and_iff_right hpositive]
    rcases lt_trichotomy (value r) (value q) with hlt | heq | hgt
    · obtain ⟨m, e, -, -, -, -, -, hsub, hswap⟩ := hq.exists_sub hpositive hlt
      have hhalf : value q / 2 ≤ max (value r) (value q - value r) := by
        rcases le_total (value q / 2) (value r) with h | h
        · exact le_max_of_le_left h
        · exact le_max_of_le_right (by linarith only [h])
      rw [hswap, abs_neg_div hsub (hq.sub hpositive hlt) hq, abs_sub_comm, abs_of_pos (sub_pos.mpr hlt),
        IsPositive.sub_div_le_iff hq hb hsmall hq hpositive hlt hhalf]
    · obtain rfl := (hpositive.value_inj hq).mp heq
      have hbound : 0 ≤ b := by
        obtain ⟨hn, hbu⟩ := hb.exists_unpack
        rw [Number.le_iff, hbu]
        rfl
      refine iff_of_true ((abs_sub_self_div_le_iff hbound hr).mpr hpositive) (.inl ?_)
      rw [sub_self, abs_zero, zero_div]
      exact add_pos hb.value_pos (half_pos (gap_pos _))
    · have hpos := hq.value_pos
      have hsign : isNegative ((r - q) / q) = false :=
        isNegative_div (isPositive_iff.mp (hpositive.sub hq hgt)).1 (isPositive_iff.mp hq).1
      rw [abs_of_unsigned hsign, abs_of_pos (sub_pos.mpr hgt)]
      exact IsPositive.sub_div_le_iff hq hb hsmall hpositive hq hgt
        (le_max_of_le_left (by linarith only [hpos]))
  · exact iff_of_false (not_abs_sub_div_le hq hb hsmall hr hpositive) fun h => hpositive h.1

end

end Equate.Number
