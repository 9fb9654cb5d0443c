import Equate.Proofs.Number.Difference
import Equate.Proofs.Unit.Lookup

/-!
# When conversion factors agree

A conversion looks at the quotients of the factors in the categories that hold both symbols, in the
order of the table. It succeeds exactly if all of them are positive and finite and none differs from
the first by as much as a fixed part of the first. The part is a rational number next to the
tolerance, for the comparison is made with rounded numbers.

The same categories propose the reciprocal quotients for the other direction. What one direction has
and the other has not comes from the ends of the range of the numbers, where a quotient is positive
and finite and its reciprocal is not, and from rounding next to the tolerance. Away from both there is
a conversion in both directions or in none.
-/
namespace Equate.Unit
open Number Success

/-! ## Quotients -/

namespace Table

/-- The quotients of the factors of two symbols, in the order of the categories. -/
def quotients (t : Table) (source target : Text) : List Float :=
  t.categories.filterMap fun c => c.quotient? source target

/-- The table has a conversion from one symbol to the other. -/
def Converts (t : Table) (source target : Text) : Prop := ∃ q, t.conversion source target = .ok q

theorem map_snd_proposals (t : Table) (source target : Text) :
    (t.categories.filterMap (proposal? source target)).map Prod.snd = t.quotients source target := by
  rw [List.map_filterMap]
  refine List.filterMap_congr fun c _ => ?_
  rw [Category.proposal?_eq, Option.map_map]
  exact Option.map_id'

theorem conversion_eq_unitNotFound_iff {t : Table} {source target : Text} :
    t.conversion source target = .error (.unitNotFound source target) ↔ t.quotients source target = [] := by
  rw [← map_snd_proposals, List.map_eq_nil_iff, conversion]
  split
  · next hnone => exact iff_of_true rfl hnone
  · next name first rest hsome =>
    refine iff_of_false (fun h => ?_) (by rw [hsome]; exact List.cons_ne_nil _ _)
    dsimp only at h
    split at h <;> cases h

theorem conversion_eq_ok_iff {t : Table} {source target : Text} {q : Float} :
    t.conversion source target = .ok q ↔ (t.quotients source target).head? = some q ∧
      ∀ r ∈ t.quotients source target, agrees q r = true := by
  rw [← map_snd_proposals, conversion]
  split
  · next hnone =>
    rw [hnone]
    exact iff_of_false (fun h => by cases h) fun h => by cases h.1
  · next name first rest hsome =>
    have hall : (((name, first) :: rest).all fun p => agrees first p.2) = true ↔
        ∀ r ∈ ((name, first) :: rest).map Prod.snd, agrees first r = true := by
      rw [List.all_eq_true, List.forall_mem_map]
    rw [hsome]
    dsimp only
    constructor
    · intro h
      split at h
      · next hagree =>
        cases h
        exact ⟨rfl, hall.mp hagree⟩
      · cases h
    · rintro ⟨hfirst, hagree⟩
      cases hfirst
      exact if_pos (hall.mpr hagree)

end Table

/-! ## Values near to each other -/

/-- Two values differ by less than a part of the first. -/
def Near (part v w : ℚ) : Prop := |w - v| < part * v

section
variable {part part' u v w : ℚ}

theorem near_self (hpart : 0 < part) (hv : 0 < v) : Near part v v := by
  rw [Near, sub_self, abs_zero]
  exact mul_pos hpart hv

theorem Near.mono (hv : 0 < v) (hle : part ≤ part') (h : Near part v w) : Near part' v w :=
  lt_of_lt_of_le h (mul_le_mul_of_nonneg_right hle hv.le)

/-- Seen from the other side the part is a little larger. -/
theorem Near.symm (hpart : part + part * part' ≤ part') (hpart' : 0 < part') (hv : 0 < v)
    (h : Near part v w) : Near part' w v := by
  obtain ⟨hlow, -⟩ := abs_lt.mp h
  have hlow : (1 - part) * v < w := by linarith
  have hscale : part ≤ part' * (1 - part) := by linarith
  rw [Near, abs_sub_comm]
  calc |w - v| < part * v := h
    _ ≤ part' * (1 - part) * v := mul_le_mul_of_nonneg_right hscale hv.le
    _ = part' * ((1 - part) * v) := mul_assoc _ _ _
    _ ≤ part' * w := mul_le_mul_of_nonneg_left hlow.le hpart'.le

theorem Near.trans (hpart' : 0 < part') (h : Near part u v) (h' : Near part' v w) :
    Near (part + part' + part * part') u w := by
  obtain ⟨-, hhigh⟩ := abs_lt.mp h
  have hhigh : v < (1 + part) * u := by linarith
  calc |w - u| ≤ |w - v| + |v - u| := abs_sub_le w v u
    _ < part' * v + part * u := add_lt_add h' h
    _ ≤ part' * ((1 + part) * u) + part * u := by gcongr
    _ = (part + part' + part * part') * u := by ring

theorem near_inv_iff (hv : 0 < v) (hw : 0 < w) : Near part v⁻¹ w⁻¹ ↔ Near part w v := by
  rw [Near, Near, inv_sub_inv hw.ne' hv.ne', abs_div, abs_of_pos (mul_pos hw hv),
    div_lt_iff₀ (mul_pos hw hv), mul_comm w v, ← mul_assoc, inv_mul_cancel_right₀ hv.ne']

end

/-! ## The tolerance -/

/-- The part of the first quotient that no other may differ by. -/
def agreementLimit : ℚ := 9903520314283043 / 2 ^ 93

theorem isPositive_agreementTolerance : IsPositive agreementTolerance := by decide

theorem magnitude_agreementTolerance :
    magnitude (magnitudeCode agreementTolerance) = (4951760157141521, -92) := rfl

theorem middle_agreementTolerance : middle (magnitudeCode agreementTolerance) = agreementLimit := by
  rw [middle, codeValue, gap, magnitude_agreementTolerance, agreementLimit]
  norm_num

/-- The mantissa of the tolerance is odd, so what lies in the middle is rounded up. -/
theorem roundsWithin_agreementTolerance {v : ℚ} :
    RoundsWithin agreementTolerance v ↔ v < agreementLimit := by
  have hodd : magnitudeCode agreementTolerance % 2 = 1 := rfl
  rw [RoundsWithin, middle_agreementTolerance, hodd]
  simp

theorem agrees_iff {q r : Float} (hq : IsPositive q) (hr : isNegative r = false) :
    agrees q r = true ↔ IsPositive r ∧ Near agreementLimit (value q) (value r) := by
  have hsmall : middle (magnitudeCode agreementTolerance) < 1 / 4 := by
    rw [middle_agreementTolerance, agreementLimit]
    norm_num
  rw [agrees, decide_eq_true_eq, abs_sub_div_le_iff hq isPositive_agreementTolerance hsmall hr,
    roundsWithin_agreementTolerance, div_lt_iff₀ hq.value_pos, Near]

theorem agreementLimit_pos : 0 < agreementLimit := by
  rw [agreementLimit]
  norm_num

/-! ## Conversions of a loaded table -/

namespace Table
variable {configuration : Json.Value} {t : Table} (hload : Table.load configuration = .ok t)
include hload

theorem isNegative_of_mem_quotients {source target : Text} {q : Float}
    (hq : q ∈ t.quotients source target) : isNegative q = false := by
  obtain ⟨c, hc, hquotient⟩ := List.mem_filterMap.mp hq
  exact isNegative_of_quotient? hload hc hquotient

/-- The first quotient is compared with itself too, and only a positive finite one passes. -/
theorem isPositive_of_conversion {source target : Text} {q : Float}
    (hq : t.conversion source target = .ok q) : IsPositive q := by
  obtain ⟨hfirst, hagree⟩ := conversion_eq_ok_iff.mp hq
  have hmem := List.mem_of_head? hfirst
  exact (agrees_self_iff (isNegative_of_mem_quotients hload hmem)).mp (hagree q hmem)

/-- A conversion exists exactly if all quotients are positive and near to the first. -/
theorem converts_iff {source target : Text} :
    t.Converts source target ↔ ∃ q, (t.quotients source target).head? = some q ∧
      ∀ r ∈ t.quotients source target, IsPositive r ∧ Near agreementLimit (value q) (value r) := by
  refine exists_congr fun q => ?_
  rw [conversion_eq_ok_iff]
  refine and_congr_right fun hfirst => ?_
  have hmem : q ∈ t.quotients source target := List.mem_of_head? hfirst
  constructor
  · intro h r hr
    have hq : IsPositive q := isPositive_of_conversion hload (conversion_eq_ok_iff.mpr ⟨hfirst, h⟩)
    exact (agrees_iff hq (isNegative_of_mem_quotients hload hr)).mp (h r hr)
  · intro h r hr
    exact (agrees_iff (h q hmem).1 (isNegative_of_mem_quotients hload hr)).mpr (h r hr)

end Table

/-! ## The factors of two symbols -/

/-- The factors of two symbols. -/
def Category.factors? (c : Category) (source target : Text) : Option (Float × Float) := do
  let perSource ← c.factor? source
  let perTarget ← c.factor? target
  return (perSource, perTarget)

namespace Table

/-- The factors of two symbols in the categories that hold both. -/
def factors (t : Table) (source target : Text) : List (Float × Float) :=
  t.categories.filterMap fun c => c.factors? source target

theorem quotients_eq (t : Table) (source target : Text) :
    t.quotients source target = (t.factors source target).map fun p => p.2 / p.1 := by
  rw [quotients, factors, List.map_filterMap]
  refine List.filterMap_congr fun c _ => ?_
  unfold Category.quotient? Category.factors?
  cases c.factor? source with
  | none => rfl
  | some x => cases c.factor? target <;> rfl

theorem factors_swap (t : Table) (source target : Text) :
    t.factors target source = (t.factors source target).map Prod.swap := by
  rw [factors, factors, List.map_filterMap]
  refine List.filterMap_congr fun c _ => ?_
  unfold Category.factors?
  cases c.factor? source with
  | none => cases c.factor? target <;> rfl
  | some x => cases c.factor? target <;> rfl

section
variable {configuration : Json.Value} {t : Table} (hload : load configuration = .ok t)
include hload

theorem isNegative_of_mem_factors {source target : Text} {p : Float × Float}
    (hp : p ∈ t.factors source target) : isNegative p.1 = false ∧ isNegative p.2 = false := by
  obtain ⟨c, hc, hfactors⟩ := List.mem_filterMap.mp hp
  have hevery := every_load kept_unsigned hload c hc
  obtain ⟨x, hx, hfactors⟩ := Option.bind_eq_some_iff.mp hfactors
  obtain ⟨y, hy, hfactors⟩ := Option.bind_eq_some_iff.mp hfactors
  cases hfactors
  exact ⟨hevery.factor? hx, hevery.factor? hy⟩

theorem converts_iff_factors {source target : Text} :
    t.Converts source target ↔ ∃ p, (t.factors source target).head? = some p ∧
      ∀ r ∈ t.factors source target,
        IsPositive (r.2 / r.1) ∧ Near agreementLimit (value (p.2 / p.1)) (value (r.2 / r.1)) := by
  rw [converts_iff hload, quotients_eq]
  simp only [List.head?_map, Option.map_eq_some_iff, List.forall_mem_map]
  constructor
  · rintro ⟨_, ⟨p, hp, rfl⟩, h⟩
    exact ⟨p, hp, h⟩
  · rintro ⟨p, hp, h⟩
    exact ⟨_, ⟨p, hp, rfl⟩, h⟩

/-- A factor that is not positive and finite spoils the conversion. -/
theorem not_converts_of_mem_factors {source target : Text} {p : Float × Float}
    (hp : p ∈ t.factors source target) (hnot : ¬(IsPositive p.1 ∧ IsPositive p.2)) :
    ¬t.Converts source target := by
  intro h
  obtain ⟨_, -, hpositive⟩ := (converts_iff_factors hload).mp h
  obtain ⟨hsource, htarget⟩ := isNegative_of_mem_factors hload hp
  exact hnot (isPositive_of_div htarget hsource (hpositive p hp).1).symm

/-- In one category there is a conversion exactly if the ratio stays within the range. -/
theorem converts_iff_inRange {source target : Text} {x y : Float}
    (hfactors : t.factors source target = [(x, y)]) (hx : IsPositive x) (hy : IsPositive y) :
    t.Converts source target ↔ Number.InRange (value y / value x) := by
  rw [converts_iff_factors hload, hfactors, ← hy.isPositive_div_iff hx]
  constructor
  · rintro ⟨p, -, h⟩
    exact (h (x, y) List.mem_cons_self).1
  · intro h
    refine ⟨(x, y), rfl, List.forall_mem_singleton.mpr ⟨h, ?_⟩⟩
    exact near_self agreementLimit_pos h.value_pos

end

end Table

/-! ## Rounded ratios -/

/-- The exact ratio of two factors. -/
def ratio (p : Float × Float) : ℚ := value p.2 / value p.1

theorem ratio_swap (p : Float × Float) : ratio p.swap = (ratio p)⁻¹ := (inv_div _ _).symm

/-- Two positive factors whose ratio is a normal number in both directions. -/
structure Moderate (p : Float × Float) : Prop where
  source : IsPositive p.1
  target : IsPositive p.2
  low : leastNormal ≤ ratio p
  high : ratio p ≤ leastNormal⁻¹

namespace Moderate
variable {p : Float × Float} (h : Moderate p)
include h

theorem ratio_pos : 0 < ratio p := lt_of_lt_of_le leastNormal_pos h.low

theorem swap : Moderate p.swap where
  source := h.target
  target := h.source
  low := by
    rw [ratio_swap, le_inv_comm₀ leastNormal_pos h.ratio_pos]
    exact h.high
  high := by
    rw [ratio_swap]
    exact inv_anti₀ leastNormal_pos h.low

theorem isPositive_quotient : IsPositive (p.2 / p.1) :=
  (h.target.isPositive_div_iff h.source).mpr (inRange_of_normal h.low h.high)

/-- The quotient is the ratio up to the error of one rounding. -/
theorem near_quotient : Near (2 ^ (-52 : Int)) (ratio p) (value (p.2 / p.1)) := by
  have hquotient : p.2 / p.1 = rounded (ratio p) := h.target.div_eq h.source
  have hpositive := h.isPositive_quotient
  rw [hquotient] at hpositive ⊢
  refine lt_of_le_of_lt (abs_value_rounded_sub_le h.low hpositive) ?_
  exact mul_lt_mul_of_pos_right (zpow_lt_zpow_right₀ one_lt_two (by decide)) h.ratio_pos

end Moderate

/-- How far the errors of two quotients move the tolerance. -/
def quotientMargin : ℚ := 7 / 2 * 2 ^ (-52 : Int)

/-- How far from the tolerance rounding can decide, in either direction. -/
def roundingMargin : ℚ := 2 ^ (-50 : Int)

section
variable {p r : Float × Float} (hp : Moderate p) (hr : Moderate r)
include hp hr

theorem near_quotients (h : Near (agreementLimit - quotientMargin) (ratio p) (ratio r)) :
    Near agreementLimit (value (p.2 / p.1)) (value (r.2 / r.1)) := by
  have hback : Near (2 ^ (-51 : Int)) (value (p.2 / p.1)) (ratio p) :=
    hp.near_quotient.symm (by norm_num) (by norm_num) hp.ratio_pos
  have hpart : 0 < agreementLimit - quotientMargin := by
    rw [agreementLimit, quotientMargin]
    norm_num
  refine ((hback.trans hpart h).trans (by norm_num) hr.near_quotient).mono hp.isPositive_quotient.value_pos ?_
  rw [agreementLimit, quotientMargin]
  norm_num

theorem near_ratios (h : Near agreementLimit (value (p.2 / p.1)) (value (r.2 / r.1))) :
    Near (agreementLimit + quotientMargin) (ratio p) (ratio r) := by
  have hback : Near (2 ^ (-51 : Int)) (value (r.2 / r.1)) (ratio r) :=
    hr.near_quotient.symm (by norm_num) (by norm_num) hr.ratio_pos
  refine ((hp.near_quotient.trans agreementLimit_pos h).trans (by norm_num) hback).mono hp.ratio_pos ?_
  rw [agreementLimit, quotientMargin]
  norm_num

/-- The ratio of one pair to another is not so close to the tolerance that rounding matters. -/
def Decided (p r : Float × Float) : Prop :=
  Near (agreementLimit - roundingMargin) (ratio p) (ratio r) ∨
    ¬Near (agreementLimit + roundingMargin) (ratio p) (ratio r)

theorem Decided.near_quotients_iff (h : Decided p r) :
    Near agreementLimit (value (p.2 / p.1)) (value (r.2 / r.1)) ↔
      Near (agreementLimit - roundingMargin) (ratio p) (ratio r) := by
  have hmargin : quotientMargin ≤ roundingMargin := by
    rw [quotientMargin, roundingMargin]
    norm_num
  constructor
  · intro hnear
    have hratios : Near (agreementLimit + roundingMargin) (ratio p) (ratio r) :=
      (near_ratios hp hr hnear).mono hp.ratio_pos (add_le_add_right hmargin _)
    exact h.resolve_right fun hfar => hfar hratios
  · intro hnear
    exact near_quotients hp hr (hnear.mono hp.ratio_pos (sub_le_sub_left hmargin _))

/-- For the reciprocal quotients it is the same, for close to one they differ by as much. -/
theorem Decided.near_quotients_swap_iff (h : Decided p r) :
    Near agreementLimit (value (p.swap.2 / p.swap.1)) (value (r.swap.2 / r.swap.1)) ↔
      Near (agreementLimit - roundingMargin) (ratio p) (ratio r) := by
  have hinv : ∀ part, Near part (ratio p.swap) (ratio r.swap) ↔ Near part (ratio r) (ratio p) := by
    intro part
    rw [ratio_swap, ratio_swap, near_inv_iff hp.ratio_pos hr.ratio_pos]
  have houter : agreementLimit + quotientMargin +
      (agreementLimit + quotientMargin) * (agreementLimit + roundingMargin) ≤
        agreementLimit + roundingMargin := by
    rw [agreementLimit, quotientMargin, roundingMargin]
    norm_num
  have hinner : agreementLimit - roundingMargin +
      (agreementLimit - roundingMargin) * (agreementLimit - quotientMargin) ≤
        agreementLimit - quotientMargin := by
    rw [agreementLimit, quotientMargin, roundingMargin]
    norm_num
  have hpos : 0 < agreementLimit - quotientMargin ∧ 0 < agreementLimit + roundingMargin := by
    rw [agreementLimit, quotientMargin, roundingMargin]
    norm_num
  constructor
  · intro hnear
    have hratios := (hinv _).mp (near_ratios hp.swap hr.swap hnear)
    exact h.resolve_right fun hfar => hfar (hratios.symm houter hpos.2 hr.ratio_pos)
  · intro hnear
    have hratios := (hinv _).mpr (hnear.symm hinner hpos.1 hp.ratio_pos)
    exact near_quotients hp.swap hr.swap hratios

end

namespace Table
variable {configuration : Json.Value} {t : Table} (hload : load configuration = .ok t)
include hload

/-- Which conversions have a reverse. No category holds both symbols in one order exactly if none does
in the other, and a factor that is not positive and finite spoils both directions. In one category each
direction exists exactly if its ratio stays within the range of the numbers. In several both exist or
none does, as long as all ratios are normal numbers in both directions and none differs from the first
by so nearly the tolerance that rounding decides. -/
theorem converts_reverse (source target : Text) :
    (t.conversion source target = .error (.unitNotFound source target) ↔
      t.conversion target source = .error (.unitNotFound target source)) ∧
    (∀ p ∈ t.factors source target, ¬(IsPositive p.1 ∧ IsPositive p.2) →
      ¬t.Converts source target ∧ ¬t.Converts target source) ∧
    (∀ x y, t.factors source target = [(x, y)] → IsPositive x → IsPositive y →
      (t.Converts source target ↔ Number.InRange (value y / value x)) ∧
        (t.Converts target source ↔ Number.InRange (value x / value y))) ∧
    ((∀ r ∈ t.factors source target, Moderate r) →
      (∀ p, (t.factors source target).head? = some p → ∀ r ∈ t.factors source target, Decided p r) →
      (t.Converts source target ↔ t.Converts target source)) := by
  have hswap := factors_swap t source target
  refine ⟨?_, fun p hp hnot => ⟨?_, ?_⟩, fun x y hfactors hx hy => ⟨?_, ?_⟩, fun hmoderate hdecided => ?_⟩
  · rw [conversion_eq_unitNotFound_iff, conversion_eq_unitNotFound_iff, quotients_eq, quotients_eq, hswap,
      List.map_eq_nil_iff, List.map_eq_nil_iff, List.map_eq_nil_iff]
  · exact not_converts_of_mem_factors hload hp hnot
  · refine not_converts_of_mem_factors hload (p := p.swap) ?_ fun h => hnot h.symm
    exact hswap ▸ List.mem_map_of_mem hp
  · exact converts_iff_inRange hload hfactors hx hy
  · refine converts_iff_inRange hload ?_ hy hx
    rw [hswap, hfactors]
    rfl
  · rw [converts_iff_factors hload, converts_iff_factors hload, hswap]
    simp only [List.head?_map, Option.map_eq_some_iff, List.forall_mem_map, exists_exists_and_eq_and]
    refine exists_congr fun p => and_congr_right fun hp => forall₂_congr fun r hr => ?_
    have hmem := List.mem_of_head? hp
    have hr' := hmoderate r hr
    have hp' := hmoderate p hmem
    have hd := hdecided p hp r hr
    rw [hd.near_quotients_iff hp' hr']
    refine and_congr (iff_of_true hr'.isPositive_quotient hr'.swap.isPositive_quotient) ?_
    exact (hd.near_quotients_swap_iff hp' hr').symm

end Table

theorem converts_reverse_thousand :
    ∃ t, Table.load (twoLengths 1 1000) = .ok t ∧ t.factors "a" "b" = [(1, 1000)] ∧
      t.Converts "b" "a" ∧ Number.InRange (value 1 / value 1000) := by
  have hload : ((Table.load (twoLengths 1 1000)).toOption.map fun t =>
      (t.factors "a" "b", (t.conversion "b" "a").toOption)) = some ([(1, 1000)], some 1e-3) := by
    decide +kernel
  obtain ⟨t, ht, hanswers⟩ := Option.map_eq_some_iff.mp hload
  obtain ⟨hfactors, hconversion⟩ := Prod.mk.inj hanswers
  have ht := eq_ok_of_toOption ht
  have hback : t.Converts "b" "a" := ⟨1e-3, eq_ok_of_toOption hconversion⟩
  obtain ⟨-, -, hone, -⟩ := Table.converts_reverse ht "a" "b"
  have hrange := (hone 1 1000 hfactors (by decide) (by decide)).2
  exact ⟨t, ht, hfactors, hback, hrange.mp hback⟩

/-- One direction can exist alone: the quotient is a small number, and its reciprocal overflows. -/
theorem not_converts_reverse_overflow :
    ∃ t, Table.load (twoLengths 1e155 1e-155) = .ok t ∧ t.conversion "a" "b" = .ok 1e-310 ∧
      t.conversion "b" "a" = .error (.ambiguousUnit "b" "a" ["LENGTH"]) := by
  have hload : ((Table.load (twoLengths 1e155 1e-155)).toOption.map fun t =>
      ((t.conversion "a" "b").toOption, failure? (t.conversion "b" "a"))) =
        some (some 1e-310, some (.ambiguousUnit "b" "a" ["LENGTH"])) := by decide +kernel
  obtain ⟨t, ht, hanswers⟩ := Option.map_eq_some_iff.mp hload
  obtain ⟨hconversion, hfailure⟩ := Prod.mk.inj hanswers
  exact ⟨t, eq_ok_of_toOption ht, eq_ok_of_toOption hconversion, eq_error_of_failure? hfailure⟩

end Equate.Unit
