import Equate.Proofs.Number.Sign
import Equate.Proofs.Success
import Equate.Unit.Conversion

/-!
# Factors of a table

The factors of a configuration are positive and finite, all others are products and quotients
of them. So what holds of the positive finite numbers and is kept by these two operations holds
of every factor in a table that has been loaded, whose categories are filled by insertions alone.
A conversion factor has no minus sign, and because it agrees with itself it is finite.
-/
namespace Equate.Unit
open Success

/-! ## Categories -/

namespace Category
variable {P : Float → Prop} {c : Category}

/-- All factors have the property. -/
def Every (P : Float → Prop) (c : Category) : Prop :=
  ∀ (place : Nat) u, c.units[place]? = some u → P u.2

theorem every_empty (name : Text) : (empty name).Every P := by
  intro place u h
  simp [empty] at h

theorem Every.insert (h : c.Every P) (symbol : Text) {factor : Float} (hfactor : P factor) :
    (c.insert symbol factor).Every P := by
  intro place u hu
  unfold Category.insert at hu
  split at hu
  · rw [Array.getElem?_modify] at hu
    split at hu
    · obtain ⟨v, -, rfl⟩ := Option.map_eq_some_iff.mp hu
      exact hfactor
    · exact h place u hu
  · rw [Array.getElem?_push] at hu
    split at hu
    · cases hu
      exact hfactor
    · exact h place u hu

theorem Every.insertAll (h : c.Every P) {entries : List (Text × Float)}
    (hentries : ∀ e ∈ entries, P e.2) : (c.insertAll entries).Every P := by
  unfold Category.insertAll
  induction entries generalizing c with
  | nil => exact h
  | cons e entries ih =>
    obtain ⟨he, hentries⟩ := List.forall_mem_cons.mp hentries
    exact ih (h.insert e.1 he) hentries

theorem Every.factor? (h : c.Every P) {symbol : Text} {factor : Float}
    (hfactor : c.factor? symbol = some factor) : P factor := by
  obtain ⟨place, -, hplace⟩ := Option.bind_eq_some_iff.mp hfactor
  obtain ⟨u, hu, heq⟩ := Option.bind_eq_some_iff.mp hplace
  cases heq
  exact h place u hu

theorem Every.toList (h : c.Every P) : ∀ e ∈ c.toList, P e.2 := by
  intro e he
  obtain ⟨place, hplace⟩ := List.mem_iff_getElem?.mp he
  exact h place e (by rwa [← Array.getElem?_toList])

/-- The category has been filled by insertions, of factors that have the property. -/
def Filled (P : Float → Prop) (c : Category) : Prop :=
  ∃ name entries, (∀ e ∈ entries, P e.2) ∧ c = (empty name).insertAll entries

theorem filled_empty (name : Text) : (empty name).Filled P :=
  ⟨name, [], fun _ he => absurd he List.not_mem_nil, rfl⟩

theorem Filled.every (h : c.Filled P) : c.Every P := by
  obtain ⟨name, entries, hentries, rfl⟩ := h
  exact (every_empty name).insertAll hentries

theorem Filled.insertAll (h : c.Filled P) {entries : List (Text × Float)}
    (hentries : ∀ e ∈ entries, P e.2) : (c.insertAll entries).Filled P := by
  obtain ⟨name, before, hbefore, rfl⟩ := h
  exact ⟨name, before ++ entries, List.forall_mem_append.mpr ⟨hbefore, hentries⟩,
    List.foldl_append.symm⟩

theorem Filled.insert (h : c.Filled P) (symbol : Text) {factor : Float} (hfactor : P factor) :
    (c.insert symbol factor).Filled P := by
  have hentries : ∀ e ∈ [(symbol, factor)], P e.2 := List.forall_mem_singleton.mpr hfactor
  exact h.insertAll hentries

end Category

/-! ## Tables -/

/-- A property that positive finite numbers have and products and quotients keep. -/
structure Kept (P : Float → Prop) : Prop where
  positive : ∀ x : Float, x.isFinite = true → 0 < x → P x
  mul : ∀ x y, P x → P y → P (x * y)
  div : ∀ x y, P x → P y → P (x / y)

theorem kept_unsigned : Kept fun x => Number.isNegative x = false where
  positive _ _ := Number.isNegative_of_pos
  mul _ _ := Number.isNegative_mul
  div _ _ := Number.isNegative_div

namespace Table
variable {P : Float → Prop} {t : Table}

/-- All factors of all categories have the property. -/
def Every (P : Float → Prop) (t : Table) : Prop := ∀ c ∈ t.categories, c.Every P

/-- All categories have been filled with factors that have the property. -/
def Filled (P : Float → Prop) (t : Table) : Prop := ∀ c ∈ t.categories, c.Filled P

theorem Filled.unitsOf (h : t.Filled P) (name : Text) : ∀ e ∈ t.unitsOf name, P e.2 := by
  intro e he
  unfold Table.unitsOf at he
  split at he
  · next c hc => exact (h c (List.mem_of_find?_eq_some hc)).every.toList e he
  · exact absurd he List.not_mem_nil

theorem filled_insertInto {name : Text} {entries : List (Text × Float)}
    (hentries : ∀ e ∈ entries, P e.2) {cs : List Category} (h : ∀ c ∈ cs, c.Filled P) :
    ∀ c ∈ insertInto name entries cs, c.Filled P := by
  induction cs with
  | nil =>
    intro c hc
    rw [List.mem_singleton.mp hc]
    exact (Category.filled_empty name).insertAll hentries
  | cons d cs ih =>
    obtain ⟨hd, hcs⟩ := List.forall_mem_cons.mp h
    rw [insertInto]
    split
    · exact List.forall_mem_cons.mpr ⟨hd.insertAll hentries, hcs⟩
    · exact List.forall_mem_cons.mpr ⟨hd, ih hcs⟩

section
variable (hP : Kept P) {times lengths masses forces : List (Text × Float)}
  (hlengths : ∀ e ∈ lengths, P e.2)
include hP hlengths

theorem forall_mem_composedForces (htimes : ∀ e ∈ times, P e.2) (hmasses : ∀ e ∈ masses, P e.2) :
    ∀ e ∈ composedForces times lengths masses, P e.2 := by
  intro e he
  obtain ⟨time, htime, he⟩ := List.mem_flatMap.mp he
  obtain ⟨length, hlength, he⟩ := List.mem_flatMap.mp he
  obtain ⟨mass, hmass, rfl⟩ := List.mem_map.mp he
  have htime := htimes time htime
  exact hP.div _ _ (hP.mul _ _ (hmasses mass hmass) (hlengths length hlength)) (hP.mul _ _ htime htime)

variable (hforces : ∀ e ∈ forces, P e.2)
include hforces

theorem forall_mem_composedPressures : ∀ e ∈ composedPressures lengths forces, P e.2 := by
  intro e he
  obtain ⟨length, hlength, he⟩ := List.mem_flatMap.mp he
  obtain ⟨force, hforce, rfl⟩ := List.mem_map.mp he
  have hlength := hlengths length hlength
  exact hP.div _ _ (hforces force hforce) (hP.mul _ _ hlength hlength)

theorem forall_mem_composedTorques : ∀ e ∈ composedTorques lengths forces, P e.2 := by
  intro e he
  obtain ⟨length, hlength, he⟩ := List.mem_flatMap.mp he
  obtain ⟨force, hforce, he⟩ := List.mem_flatMap.mp he
  have hproduct := hP.mul _ _ (hforces force hforce) (hlengths length hlength)
  rcases List.mem_pair.mp he with rfl | rfl
  · exact hproduct
  · exact hproduct

end

theorem Filled.withForces (h : t.Filled P) (hP : Kept P) : t.withForces.Filled P :=
  filled_insertInto (forall_mem_composedForces hP (h.unitsOf _) (h.unitsOf _) (h.unitsOf _)) h

theorem Filled.withPressuresAndTorques (h : t.Filled P) (hP : Kept P) :
    t.withPressuresAndTorques.Filled P :=
  filled_insertInto (forall_mem_composedTorques hP (h.unitsOf _) (h.unitsOf _))
    (filled_insertInto (forall_mem_composedPressures hP (h.unitsOf _) (h.unitsOf _)) h)

/-! ## Configurations -/

theorem positive_of_readFactor {category symbol : Text} {value : Json.Value} {x : Float}
    (h : readFactor category symbol value = .ok x) : x.isFinite = true ∧ 0 < x := by
  unfold readFactor at h
  split at h
  · cases h
  · split at h
    · next hpositive =>
      cases h
      rw [Bool.and_eq_true, decide_eq_true_eq] at hpositive
      exact hpositive
    · cases h

/-- The members are objects, and their categories are read one behind the other. -/
theorem readCategories_cons_eq_ok {m : Text × Json.Value} {members : List (Text × Json.Value)}
    {cs : List Category} :
    readCategories (m :: members) = .ok cs ↔ ∃ entries c more, m.2 = .object entries ∧
      readEntries (.empty m.1) entries = .ok c ∧ readCategories members = .ok more ∧
      cs = c :: more := by
  obtain ⟨name, value⟩ := m
  constructor
  · intro h
    cases value with
    | object entries =>
      obtain ⟨c, hc, h⟩ := bind_eq_ok.mp h
      obtain ⟨more, hmore, h⟩ := bind_eq_ok.mp h
      exact ⟨entries, c, more, rfl, hc, hmore, (Except.ok.inj h).symm⟩
    | _ => cases h
  · rintro ⟨entries, c, more, hentries, hc, hmore, rfl⟩
    cases hentries
    exact bind_eq_ok.mpr ⟨c, hc, bind_eq_ok.mpr ⟨more, hmore, rfl⟩⟩

section
variable (hP : ∀ x : Float, x.isFinite = true → 0 < x → P x)
include hP

theorem filled_readEntries {entries : List (Text × Json.Value)} {c c' : Category}
    (hc : c.Filled P) (h : readEntries c entries = .ok c') : c'.Filled P := by
  induction entries generalizing c with
  | nil =>
    cases h
    exact hc
  | cons e entries ih =>
    obtain ⟨x, hx, h⟩ := bind_eq_ok.mp h
    obtain ⟨hfinite, hpositive⟩ := positive_of_readFactor hx
    exact ih (hc.insert e.1 (hP x hfinite hpositive)) h

theorem filled_readCategories {members : List (Text × Json.Value)} {cs : List Category}
    (h : readCategories members = .ok cs) : ∀ c ∈ cs, c.Filled P := by
  induction members generalizing cs with
  | nil =>
    cases h
    exact fun c hc => absurd hc List.not_mem_nil
  | cons m members ih =>
    obtain ⟨entries, c, more, -, hc, hmore, rfl⟩ := readCategories_cons_eq_ok.mp h
    exact List.forall_mem_cons.mpr ⟨filled_readEntries hP (Category.filled_empty _) hc, ih hmore⟩

end

/-- A configuration that is accepted is read category by category, and then what is composed is added. -/
theorem load_eq_ok {configuration : Json.Value} :
    load configuration = .ok t ↔ ∃ members cs, configuration = .object members ∧
      readCategories members = .ok cs ∧ missing? cs = none ∧
      t = (Table.mk cs).withForces.withPressuresAndTorques := by
  constructor
  · intro h
    unfold load at h
    split at h
    · next members =>
      obtain ⟨cs, hcs, h⟩ := bind_eq_ok.mp h
      split at h
      · cases h
      · next hmissing =>
        cases h
        exact ⟨members, cs, rfl, hcs, hmissing, rfl⟩
    · cases h
  · rintro ⟨members, cs, rfl, hcs, hmissing, rfl⟩
    refine bind_eq_ok.mpr ⟨cs, hcs, ?_⟩
    rw [hmissing]

section
variable (hP : Kept P)
include hP

theorem filled_load {configuration : Json.Value} (h : load configuration = .ok t) : t.Filled P := by
  obtain ⟨members, cs, -, hcs, -, rfl⟩ := load_eq_ok.mp h
  have hread : Filled P ⟨cs⟩ := filled_readCategories hP.positive hcs
  exact (hread.withForces hP).withPressuresAndTorques hP

theorem every_load {configuration : Json.Value} (h : load configuration = .ok t) : t.Every P :=
  fun c hc => (filled_load hP h c hc).every

end

end Table

/-! ## Conversions -/

theorem Table.Every.of_conversion {P : Float → Prop} {t : Table} (h : t.Every P)
    (hdiv : ∀ x y, P x → P y → P (x / y)) {source target : Text} {factor : Float}
    (hfactor : t.conversion source target = .ok factor) : P factor ∧ agrees factor factor = true := by
  unfold Table.conversion at hfactor
  split at hfactor
  · cases hfactor
  · next name first rest hproposals =>
    dsimp only at hfactor
    split at hfactor
    · next hall =>
      cases hfactor
      have hself := List.all_eq_true.mp hall (name, factor) List.mem_cons_self
      dsimp only at hself
      refine ⟨?_, hself⟩
      have hmem : (name, factor) ∈ t.categories.filterMap (proposal? source target) :=
        hproposals ▸ List.mem_cons_self
      obtain ⟨c, hc, hproposal⟩ := List.mem_filterMap.mp hmem
      obtain ⟨x, hx, hproposal⟩ := Option.bind_eq_some_iff.mp hproposal
      obtain ⟨y, hy, hproposal⟩ := Option.bind_eq_some_iff.mp hproposal
      cases hproposal
      exact hdiv _ _ ((h c hc).factor? hy) ((h c hc).factor? hx)
    · cases hfactor

theorem isFinite_of_agrees {x : Float} (h : agrees x x = true) : x.isFinite = true := by
  rw [← Bool.not_eq_false]
  intro hfinite
  exact Number.not_le_of_unpack (Number.unpack_abs_sub_self_div hfinite) (of_decide_eq_true h)

/-- A conversion factor of a loaded table is finite and has no minus sign. -/
theorem isFinite_of_conversion {configuration : Json.Value} {t : Table} {source target : Text}
    {factor : Float} (hload : Table.load configuration = .ok t)
    (hfactor : t.conversion source target = .ok factor) :
    factor.isFinite = true ∧ Number.isNegative factor = false := by
  obtain ⟨hsign, hagrees⟩ :=
    (Table.every_load kept_unsigned hload).of_conversion kept_unsigned.div hfactor
  exact ⟨isFinite_of_agrees hagrees, hsign⟩

end Equate.Unit
