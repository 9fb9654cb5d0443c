import Equate.Proofs.Number.Value
import Equate.Proofs.Unit.Lookup

/-!
# Composed factors

The factors of a configuration are positive and finite. A factor that is composed of them is so only
while the products and quotients it takes stay within the range of the numbers, for nothing looks at
it when a table is loaded. Which composition a symbol has in the end can be read off the table: an
insertion changes one category, where the last factor of a symbol counts, so the composition is the
last one that was inserted under the symbol, and a symbol without one keeps the factor of the
configuration.
-/
namespace Equate.Unit
open Number Success

/-! ## Names with a further one -/

section
variable {first name : Text} {names : List Text}

theorem cons_ite_mem (h : first ≠ name) :
    (first :: if name ∈ names then names else names ++ [name]) =
      if name ∈ first :: names then first :: names else first :: names ++ [name] := by
  have hmem : name ∈ first :: names ↔ name ∈ names := by
    rw [List.mem_cons, or_iff_right h.symm]
  by_cases hname : name ∈ names
  · rw [if_pos hname, if_pos (hmem.mpr hname)]
  · rw [if_neg hname, if_neg fun h => hname (hmem.mp h)]
    rfl

theorem nodup_ite_mem (h : names.Nodup) : (if name ∈ names then names else names ++ [name]).Nodup := by
  split
  · exact h
  · next hnew => exact List.nodup_append_comm.mp (List.nodup_cons.mpr ⟨hnew, h⟩)

end

/-! ## Insertion into categories -/

namespace Category
variable {c : Category}

theorem Indexed.factor?_eq_some_iff (h : c.Indexed) {symbol : Text} {x : Float} :
    c.factor? symbol = some x ↔ ∃ place : Nat, c.units[place]? = some (symbol, x) := by
  constructor
  · intro hx
    obtain ⟨place, hplace, hunit⟩ := Option.bind_eq_some_iff.mp hx
    obtain ⟨u, hu, heq⟩ := Option.bind_eq_some_iff.mp hunit
    obtain ⟨y, hy⟩ := (h symbol place).mp hplace
    cases hu.symm.trans hy
    cases heq
    exact ⟨place, hy⟩
  · rintro ⟨place, hplace⟩
    rw [factor?, (h symbol place).mpr ⟨x, hplace⟩]
    show ((c.units[place]?).bind fun u => some u.2) = some x
    rw [hplace]
    rfl

theorem Indexed.factor?_insert (h : c.Indexed) (symbol : Text) (x : Float) (s : Text) :
    (c.insert symbol x).factor? s = if s = symbol then some x else c.factor? s := by
  unfold Category.insert
  split
  · next old hold =>
    obtain ⟨before, hbefore⟩ := (h symbol old).mp hold
    split
    · next hs =>
      subst hs
      rw [(h.modify old x).factor?_eq_some_iff]
      refine ⟨old, ?_⟩
      show (c.units.modify old _)[old]? = _
      rw [Array.getElem?_modify, if_pos rfl, hbefore]
      rfl
    · next hs =>
      refine Option.ext fun y => ?_
      rw [(h.modify old x).factor?_eq_some_iff, h.factor?_eq_some_iff]
      refine exists_congr fun place => ?_
      show (c.units.modify old _)[place]? = _ ↔ _
      rw [Array.getElem?_modify]
      split
      · next hplace =>
        subst hplace
        rw [hbefore]
        simp [Ne.symm hs]
      · rfl
  · next hnew =>
    split
    · next hs =>
      subst hs
      rw [(h.push hnew x).factor?_eq_some_iff]
      exact ⟨c.units.size, by simp⟩
    · next hs =>
      refine Option.ext fun y => ?_
      rw [(h.push hnew x).factor?_eq_some_iff, h.factor?_eq_some_iff]
      refine exists_congr fun place => ?_
      show (c.units.push (symbol, x))[place]? = _ ↔ _
      rw [Array.getElem?_push]
      split
      · next hplace =>
        subst hplace
        simp [Ne.symm hs]
      · rfl

theorem insertAll_concat (c : Category) (entries : List (Text × Float)) (e : Text × Float) :
    c.insertAll (entries ++ [e]) = (c.insertAll entries).insert e.1 e.2 := by
  unfold Category.insertAll
  rw [List.foldl_append]
  rfl

/-- Of several entries for a symbol the last counts. -/
theorem Indexed.factor?_insertAll (h : c.Indexed) (entries : List (Text × Float)) (symbol : Text) :
    (c.insertAll entries).factor? symbol = (entries.reverse.lookup symbol).or (c.factor? symbol) := by
  induction entries using List.reverseRecOn with
  | nil => rfl
  | append_singleton entries e ih =>
    rw [insertAll_concat, (h.insertAll entries).factor?_insert, ih, List.reverse_append,
      List.reverse_singleton, List.singleton_append, List.lookup_cons]
    by_cases hs : symbol = e.1
    · rw [if_pos hs, beq_iff_eq.mpr hs]
      rfl
    · rw [if_neg hs, beq_eq_false_iff_ne.mpr hs]

theorem name_insert (c : Category) (symbol : Text) (x : Float) : (c.insert symbol x).name = c.name := by
  unfold Category.insert
  split <;> rfl

theorem name_insertAll (c : Category) (entries : List (Text × Float)) :
    (c.insertAll entries).name = c.name := by
  unfold insertAll
  induction entries generalizing c with
  | nil => rfl
  | cons e entries ih => rw [List.foldl_cons, ih, name_insert]

/-- What holds of all factors of a category holds of all units. -/
theorem Indexed.every_iff (h : c.Indexed) {P : Float → Prop} :
    c.Every P ↔ ∀ symbol x, c.factor? symbol = some x → P x := by
  refine ⟨fun hc symbol x hx => hc.factor? hx, fun hc place u hu => ?_⟩
  exact hc u.1 u.2 (h.factor?_eq_some_iff.mpr ⟨place, hu⟩)

end Category

/-! ## Insertion into tables -/

namespace Table

theorem find?_insertInto_self (name : Text) (entries : List (Text × Float)) (cs : List Category) :
    (insertInto name entries cs).find? (fun c => c.name == name) =
      some (((cs.find? fun c => c.name == name).getD (.empty name)).insertAll entries) := by
  induction cs with
  | nil =>
    rw [insertInto, List.find?_cons_of_pos]
    · rfl
    · rw [Category.name_insertAll]
      exact beq_self_eq_true name
  | cons c cs ih =>
    rw [insertInto]
    split
    · next hname =>
      rw [List.find?_cons_of_pos (by rw [Category.name_insertAll, hname]; exact beq_self_eq_true name),
        List.find?_cons_of_pos (by rw [hname]; exact beq_self_eq_true name)]
      rfl
    · next hname =>
      have hne : (c.name == name) = false := beq_eq_false_iff_ne.mpr hname
      simp only [List.find?_cons, hne, ih]

theorem find?_insertInto_of_ne {name other : Text} (hother : other ≠ name)
    (entries : List (Text × Float)) (cs : List Category) :
    (insertInto name entries cs).find? (fun c => c.name == other) =
      cs.find? fun c => c.name == other := by
  induction cs with
  | nil =>
    have hne : (name == other) = false := beq_eq_false_iff_ne.mpr hother.symm
    simp only [insertInto, List.find?_cons, Category.name_insertAll, Category.empty, hne]
  | cons c cs ih =>
    rw [insertInto]
    split
    · next hname =>
      have hne : (c.name == other) = false := beq_eq_false_iff_ne.mpr (hname ▸ hother.symm)
      simp only [List.find?_cons, Category.name_insertAll, hne]
    · simp only [List.find?_cons, ih]

theorem map_name_insertInto (name : Text) (entries : List (Text × Float)) (cs : List Category) :
    (insertInto name entries cs).map Category.name =
      if name ∈ cs.map Category.name then cs.map Category.name else cs.map Category.name ++ [name] := by
  induction cs with
  | nil => simp [insertInto, Category.name_insertAll, Category.empty]
  | cons c cs ih =>
    rw [insertInto]
    split
    · next hname => simp [Category.name_insertAll, hname]
    · next hname =>
      rw [List.map_cons, ih]
      exact cons_ite_mem hname

/-- What is inserted into a category is found there before what it had. -/
theorem factor?_insertInto {cs : List Category} (hcs : ∀ c ∈ cs, c.Indexed) (name : Text)
    (entries : List (Text × Float)) (other symbol : Text) :
    (Table.mk (insertInto name entries cs)).factor? other symbol =
      ((if other = name then entries else []).reverse.lookup symbol).or
        ((Table.mk cs).factor? other symbol) := by
  unfold factor? category?
  by_cases hother : other = name
  · subst hother
    rw [if_pos rfl, find?_insertInto_self]
    cases hfind : cs.find? fun c => c.name == other with
    | none => exact (Category.indexed_empty other).factor?_insertAll entries symbol
    | some c => exact (hcs c (List.mem_of_find?_eq_some hfind)).factor?_insertAll entries symbol
  · rw [if_neg hother, find?_insertInto_of_ne hother]
    rfl

theorem unitsOf_insertInto_of_ne {name other : Text} (hother : other ≠ name)
    (entries : List (Text × Float)) (cs : List Category) :
    (Table.mk (insertInto name entries cs)).unitsOf other = (Table.mk cs).unitsOf other := by
  unfold unitsOf category?
  rw [find?_insertInto_of_ne hother]

/-- A category is as it was, or it is the one that got the entries. -/
theorem mem_insertInto {name : Text} {entries : List (Text × Float)} {cs : List Category} {c : Category}
    (hc : c ∈ insertInto name entries cs) :
    c ∈ cs ∨ (insertInto name entries cs).find? (fun c => c.name == name) = some c := by
  induction cs with
  | nil =>
    rw [insertInto, List.mem_singleton] at hc
    subst hc
    refine .inr (List.find?_cons_of_pos ?_)
    rw [Category.name_insertAll]
    exact beq_self_eq_true name
  | cons d cs ih =>
    rw [insertInto] at hc ⊢
    split at hc
    · next hname =>
      rw [if_pos hname]
      rcases List.mem_cons.mp hc with rfl | hc
      · refine .inr (List.find?_cons_of_pos ?_)
        rw [Category.name_insertAll, hname]
        exact beq_self_eq_true name
      · exact .inl (List.mem_cons_of_mem d hc)
    · next hname =>
      rw [if_neg hname]
      rcases List.mem_cons.mp hc with rfl | hc
      · exact .inl List.mem_cons_self
      · have hne : (d.name == name) = false := beq_eq_false_iff_ne.mpr hname
        rcases ih hc with hold | hnew
        · exact .inl (List.mem_cons_of_mem d hold)
        · exact .inr (by simp only [List.find?_cons, hne, hnew])

theorem indexed_insertInto {cs : List Category} (hcs : ∀ c ∈ cs, c.Indexed) (name : Text)
    (entries : List (Text × Float)) : ∀ c ∈ insertInto name entries cs, c.Indexed := by
  intro c hc
  rcases mem_insertInto hc with hold | hnew
  · exact hcs c hold
  · rw [find?_insertInto_self] at hnew
    rw [← Option.some.inj hnew]
    cases hfind : cs.find? fun c => c.name == name with
    | none => exact (Category.indexed_empty name).insertAll entries
    | some d => exact (hcs d (List.mem_of_find?_eq_some hfind)).insertAll entries

end Table

/-! ## Compositions -/

/-- How a factor is made of the factors of other units. -/
inductive Composition
  | force (mass length time : Float)
  | pressure (force length : Float)
  | torque (force length : Float)
deriving DecidableEq

namespace Composition

/-- The factor that is made. -/
def factor : Composition → Float
  | force m l t => m * l / (t * t)
  | pressure f l => f / (l * l)
  | torque f l => f * l

/-- No step leaves the range of the numbers, nor is there a force that has left it before. -/
def InRange : Composition → Prop
  | force m l t =>
    Number.InRange (value m * value l) ∧ Number.InRange (value t * value t) ∧
      Number.InRange (value (m * l) / value (t * t))
  | pressure f l =>
    IsPositive f ∧ Number.InRange (value l * value l) ∧ Number.InRange (value f / value (l * l))
  | torque f l => IsPositive f ∧ Number.InRange (value f * value l)

/-- The parts are factors of a configuration, except that a force may itself be composed. -/
def Grounded : Composition → Prop
  | force m l t => IsPositive m ∧ IsPositive l ∧ IsPositive t
  | pressure f l => isNegative f = false ∧ IsPositive l
  | torque f l => isNegative f = false ∧ IsPositive l

theorem isPositive_div_mul_iff {x y z : Float} (hx : isNegative x = false) (hy : IsPositive y)
    (hz : IsPositive z) :
    IsPositive (x / (y * z)) ↔
      IsPositive x ∧ Number.InRange (value y * value z) ∧ Number.InRange (value x / value (y * z)) := by
  have hyz : isNegative (y * z) = false :=
    isNegative_mul (isNegative_of_pos hy.2) (isNegative_of_pos hz.2)
  rw [← hy.isPositive_mul_iff hz]
  constructor
  · intro h
    obtain ⟨hx', hyz'⟩ := isPositive_of_div hx hyz h
    exact ⟨hx', hyz', (hx'.isPositive_div_iff hyz').mp h⟩
  · rintro ⟨hx', hyz', h⟩
    exact (hx'.isPositive_div_iff hyz').mpr h

theorem isPositive_factor_iff {g : Composition} (h : g.Grounded) : IsPositive g.factor ↔ g.InRange := by
  cases g with
  | force m l t =>
    obtain ⟨hmass, hlength, htime⟩ := h
    have hproduct : isNegative (m * l) = false :=
      isNegative_mul (isNegative_of_pos hmass.2) (isNegative_of_pos hlength.2)
    rw [factor, InRange, isPositive_div_mul_iff hproduct htime htime, hmass.isPositive_mul_iff hlength]
  | pressure f l => exact isPositive_div_mul_iff h.1 h.2 h.2
  | torque f l =>
    obtain ⟨hforce, hlength⟩ := h
    constructor
    · intro hproduct
      have hforce' := (isPositive_of_mul hforce (isNegative_of_pos hlength.2) hproduct).1
      exact ⟨hforce', (hforce'.isPositive_mul_iff hlength).mp hproduct⟩
    · rintro ⟨hforce', hrange⟩
      exact (hforce'.isPositive_mul_iff hlength).mpr hrange

end Composition

/-! ## What is composed in a table -/

section
variable (times lengths masses units : List (Text × Float))

/-- The compositions of forces, in the order of their insertion. -/
def forceCompositions : List (Text × Composition) :=
  times.flatMap fun (t, perTime) =>
    lengths.flatMap fun (l, perLength) =>
      masses.map fun (m, perMass) =>
        (m ++ "-" ++ l ++ "/" ++ t ++ "^2", .force perMass perLength perTime)

/-- The compositions of pressures. -/
def pressureCompositions : List (Text × Composition) :=
  lengths.flatMap fun (l, perLength) =>
    units.map fun (f, perForce) => (f ++ "/" ++ l ++ "^2", .pressure perForce perLength)

/-- The compositions of torques. -/
def torqueCompositions : List (Text × Composition) :=
  lengths.flatMap fun (l, perLength) =>
    units.flatMap fun (f, perForce) =>
      [(f ++ "-" ++ l, .torque perForce perLength), (l ++ "-" ++ f, .torque perForce perLength)]

theorem composedForces_eq : Table.composedForces times lengths masses =
    (forceCompositions times lengths masses).map (Prod.map id Composition.factor) := by
  simp only [Table.composedForces, forceCompositions, List.map_flatMap, List.map_map]
  rfl

theorem composedPressures_eq : Table.composedPressures lengths units =
    (pressureCompositions lengths units).map (Prod.map id Composition.factor) := by
  simp only [Table.composedPressures, pressureCompositions, List.map_flatMap, List.map_map]
  rfl

theorem composedTorques_eq : Table.composedTorques lengths units =
    (torqueCompositions lengths units).map (Prod.map id Composition.factor) := by
  simp only [Table.composedTorques, torqueCompositions, List.map_flatMap]
  rfl

end

namespace Table

/-- What is composed in a category, from the units of the table. -/
def compositions (t : Table) (name : Text) : List (Text × Composition) :=
  if name = "FORCE" then
    forceCompositions (t.unitsOf "TIME") (t.unitsOf "LENGTH") (t.unitsOf "MASS")
  else if name = "PRESSURE" then pressureCompositions (t.unitsOf "LENGTH") (t.unitsOf "FORCE")
  else if name = "TORQUE" then torqueCompositions (t.unitsOf "LENGTH") (t.unitsOf "FORCE")
  else []

/-- The composition that a symbol has in the end. -/
def composition? (t : Table) (name symbol : Text) : Option Composition :=
  (t.compositions name).reverse.lookup symbol

theorem unitsOf_withPressuresAndTorques (t : Table) {name : Text} (hpressure : name ≠ "PRESSURE")
    (htorque : name ≠ "TORQUE") : t.withPressuresAndTorques.unitsOf name = t.unitsOf name :=
  (unitsOf_insertInto_of_ne htorque _ _).trans (unitsOf_insertInto_of_ne hpressure _ _)

theorem unitsOf_withForces (t : Table) {name : Text} (hforce : name ≠ "FORCE") :
    t.withForces.unitsOf name = t.unitsOf name :=
  unitsOf_insertInto_of_ne hforce _ _

theorem lookup_map_factor (compositions : List (Text × Composition)) (symbol : Text) :
    (compositions.map (Prod.map id Composition.factor)).reverse.lookup symbol =
      (compositions.reverse.lookup symbol).map Composition.factor := by
  rw [← List.map_reverse]
  induction compositions.reverse with
  | nil => rfl
  | cons e rest ih =>
    rw [List.map_cons, List.lookup_cons, List.lookup_cons, ih]
    show (match symbol == e.1 with | true => _ | false => _) = _
    cases symbol == e.1 <;> rfl

/-- The basic units stay what they are. -/
theorem unitsOf_composed (t : Table) (name : Text)
    (hname : name ∈ (["TIME", "LENGTH", "MASS"] : List Text)) :
    t.withForces.withPressuresAndTorques.unitsOf name = t.unitsOf name := by
  have hne : name ≠ "PRESSURE" ∧ name ≠ "TORQUE" ∧ name ≠ "FORCE" := by
    revert name
    decide
  rw [unitsOf_withPressuresAndTorques _ hne.1 hne.2.1, unitsOf_withForces _ hne.2.2]

section
variable {t : Table} (ht : ∀ c ∈ t.categories, c.Indexed)
include ht

theorem factor?_withForces (name symbol : Text) :
    t.withForces.factor? name symbol =
      ((if name = "FORCE" then
          forceCompositions (t.unitsOf "TIME") (t.unitsOf "LENGTH") (t.unitsOf "MASS")
        else []).reverse.lookup symbol |>.map Composition.factor).or (t.factor? name symbol) := by
  rw [withForces, factor?_insertInto ht, ← lookup_map_factor, composedForces_eq]
  split <;> rfl

theorem factor?_withPressuresAndTorques (name symbol : Text) :
    t.withPressuresAndTorques.factor? name symbol =
      ((if name = "PRESSURE" then pressureCompositions (t.unitsOf "LENGTH") (t.unitsOf "FORCE")
        else if name = "TORQUE" then torqueCompositions (t.unitsOf "LENGTH") (t.unitsOf "FORCE")
        else []).reverse.lookup symbol |>.map Composition.factor).or (t.factor? name symbol) := by
  rw [withPressuresAndTorques, factor?_insertInto (indexed_insertInto ht _ _), factor?_insertInto ht,
    ← lookup_map_factor, composedPressures_eq, composedTorques_eq]
  by_cases hpressure : name = "PRESSURE"
  · have htorque : name ≠ "TORQUE" := by rw [hpressure]; decide
    rw [if_pos hpressure, if_pos hpressure, if_neg htorque]
    rfl
  · rw [if_neg hpressure, if_neg hpressure]
    split <;> rfl

/-- A table that is complete gives a symbol its last composition, or else what it had before. -/
theorem factor?_composed (name symbol : Text) :
    t.withForces.withPressuresAndTorques.factor? name symbol =
      ((t.withForces.withPressuresAndTorques.composition? name symbol).map Composition.factor).or
        (t.factor? name symbol) := by
  have hforces : ∀ c ∈ t.withForces.categories, c.Indexed := indexed_insertInto ht _ _
  have hlengths : t.withForces.unitsOf "LENGTH" = t.unitsOf "LENGTH" :=
    unitsOf_withForces t (by decide)
  have hunits : t.withForces.withPressuresAndTorques.unitsOf "FORCE" = t.withForces.unitsOf "FORCE" :=
    unitsOf_withPressuresAndTorques _ (by decide) (by decide)
  rw [factor?_withPressuresAndTorques hforces, factor?_withForces ht, composition?, compositions,
    unitsOf_composed t "TIME" (by decide), unitsOf_composed t "LENGTH" (by decide),
    unitsOf_composed t "MASS" (by decide), hlengths, hunits]
  by_cases hforce : name = "FORCE"
  · have hpressure : name ≠ "PRESSURE" := by rw [hforce]; decide
    have htorque : name ≠ "TORQUE" := by rw [hforce]; decide
    rw [if_neg hpressure, if_neg htorque, if_pos hforce]
    rfl
  · rw [if_neg hforce, if_neg hforce]
    rfl

end

/-- A category of a complete table is found under a name, or is as it was. -/
theorem mem_categories_composed {t : Table} {c : Category}
    (hc : c ∈ t.withForces.withPressuresAndTorques.categories) :
    c ∈ t.categories ∨ ∃ name, t.withForces.withPressuresAndTorques.category? name = some c := by
  have hpressure : ("PRESSURE" : Text) ≠ "TORQUE" := by decide
  have hforce : ("FORCE" : Text) ≠ "PRESSURE" ∧ ("FORCE" : Text) ≠ "TORQUE" := by decide
  unfold category? withPressuresAndTorques at *
  rcases mem_insertInto hc with hc | hnew
  · rcases mem_insertInto hc with hc | hnew
    · rcases mem_insertInto hc with hc | hnew
      · exact .inl hc
      · refine .inr ⟨"FORCE", ?_⟩
        rw [find?_insertInto_of_ne hforce.2, find?_insertInto_of_ne hforce.1]
        exact hnew
    · refine .inr ⟨"PRESSURE", ?_⟩
      rw [find?_insertInto_of_ne hpressure]
      exact hnew
  · exact .inr ⟨"TORQUE", hnew⟩

end Table

section
variable {times lengths masses units : List (Text × Float)} (hlengths : ∀ e ∈ lengths, IsPositive e.2)
include hlengths

theorem grounded_forceCompositions (htimes : ∀ e ∈ times, IsPositive e.2)
    (hmasses : ∀ e ∈ masses, IsPositive e.2) :
    ∀ e ∈ forceCompositions times lengths masses, e.2.Grounded := by
  intro e he
  obtain ⟨time, htime, he⟩ := List.mem_flatMap.mp he
  obtain ⟨length, hlength, he⟩ := List.mem_flatMap.mp he
  obtain ⟨mass, hmass, rfl⟩ := List.mem_map.mp he
  exact ⟨hmasses mass hmass, hlengths length hlength, htimes time htime⟩

variable (hunits : ∀ e ∈ units, isNegative e.2 = false)
include hunits

theorem grounded_pressureCompositions : ∀ e ∈ pressureCompositions lengths units, e.2.Grounded := by
  intro e he
  obtain ⟨length, hlength, he⟩ := List.mem_flatMap.mp he
  obtain ⟨force, hforce, rfl⟩ := List.mem_map.mp he
  exact ⟨hunits force hforce, hlengths length hlength⟩

theorem grounded_torqueCompositions : ∀ e ∈ torqueCompositions lengths units, e.2.Grounded := by
  intro e he
  obtain ⟨length, hlength, he⟩ := List.mem_flatMap.mp he
  obtain ⟨force, hforce, he⟩ := List.mem_flatMap.mp he
  have hgrounded : (Composition.torque force.2 length.2).Grounded :=
    ⟨hunits force hforce, hlengths length hlength⟩
  rcases List.mem_pair.mp he with rfl | rfl
  · exact hgrounded
  · exact hgrounded

end

namespace Table

theorem filled_isPositive {members : List (Text × Json.Value)} {cs : List Category}
    (h : readCategories members = .ok cs) : Filled IsPositive ⟨cs⟩ :=
  filled_readCategories (fun _ hfinite hpos => ⟨hfinite, hpos⟩) h

section
variable {configuration : Json.Value} {t : Table} (hload : load configuration = .ok t)
include hload

/-- In a loaded table the factor of a symbol is composed, or it is the positive one that has been
configured. -/
theorem factor?_load (name symbol : Text) :
    ∃ configured : Option Float, (∀ x ∈ configured, IsPositive x) ∧
      t.factor? name symbol = ((t.composition? name symbol).map Composition.factor).or configured := by
  obtain ⟨members, cs, -, hcs, -, rfl⟩ := load_eq_ok.mp hload
  have hfilled := filled_isPositive hcs
  refine ⟨(Table.mk cs).factor? name symbol, fun x hx => ?_, ?_⟩
  · obtain ⟨c, hc, hfactor⟩ := Option.bind_eq_some_iff.mp hx
    exact (hfilled c (List.mem_of_find?_eq_some hc)).every.factor? hfactor
  · exact factor?_composed (fun c hc => (hfilled c hc).indexed) name symbol

/-- A category of a loaded table is found under a name, or all its factors are positive. -/
theorem every_isPositive_or_category? {c : Category} (hc : c ∈ t.categories) :
    c.Every IsPositive ∨ ∃ name, t.category? name = some c := by
  obtain ⟨members, cs, -, hcs, -, rfl⟩ := load_eq_ok.mp hload
  have hfilled := filled_isPositive hcs
  exact (mem_categories_composed hc).imp_left fun hread => (hfilled c hread).every

theorem grounded_composition? {name symbol : Text} {g : Composition}
    (hg : t.composition? name symbol = some g) : g.Grounded := by
  have hforces : ∀ e ∈ t.unitsOf "FORCE", isNegative e.2 = false :=
    (filled_load kept_unsigned hload).unitsOf _
  have hmem : (symbol, g) ∈ t.compositions name := by
    obtain ⟨before, behind, hsplit, -⟩ := List.lookup_eq_some_iff.mp hg
    exact List.mem_reverse.mp (hsplit ▸ List.mem_append_right _ List.mem_cons_self)
  obtain ⟨members, cs, -, hcs, -, rfl⟩ := load_eq_ok.mp hload
  have hread := filled_isPositive hcs
  have hkept : ∀ other ∈ (["TIME", "LENGTH", "MASS"] : List Text),
      ∀ e ∈ (Table.mk cs).withForces.withPressuresAndTorques.unitsOf other, IsPositive e.2 := by
    intro other hother
    rw [unitsOf_composed _ other hother]
    exact hread.unitsOf other
  have hlengths := hkept "LENGTH" (by decide)
  unfold compositions at hmem
  split at hmem
  · exact grounded_forceCompositions hlengths (hkept "TIME" (by decide)) (hkept "MASS" (by decide)) _ hmem
  · split at hmem
    · exact grounded_pressureCompositions hlengths hforces _ hmem
    · split at hmem
      · exact grounded_torqueCompositions hlengths hforces _ hmem
      · exact absurd hmem List.not_mem_nil

theorem factor?_of_composition? {name symbol : Text} {g : Composition}
    (hg : t.composition? name symbol = some g) : t.factor? name symbol = some g.factor := by
  obtain ⟨configured, -, hfactor⟩ := factor?_load hload name symbol
  rw [hfactor, hg]
  rfl

theorem isPositive_iff_of_factor? {name symbol : Text} {x : Float}
    (hx : t.factor? name symbol = some x) :
    IsPositive x ↔ ∀ g, t.composition? name symbol = some g → g.InRange := by
  obtain ⟨configured, hpositive, hfactor⟩ := factor?_load hload name symbol
  cases hg : t.composition? name symbol with
  | none =>
    rw [hfactor, hg] at hx
    exact iff_of_true (hpositive x hx) nofun
  | some g =>
    cases hx.symm.trans (factor?_of_composition? hload hg)
    rw [Composition.isPositive_factor_iff (grounded_composition? hload hg)]
    exact ⟨fun h g' hg' => Option.some.inj hg' ▸ h, fun h => h g rfl⟩

/-- Which factors of a loaded table are positive and finite. A composed factor is so exactly if its
composition stays within the range of the numbers, all others are. -/
theorem every_isPositive_iff :
    (∀ name symbol g, t.composition? name symbol = some g → t.factor? name symbol = some g.factor) ∧
    (∀ name symbol x, t.factor? name symbol = some x →
      (IsPositive x ↔ ∀ g, t.composition? name symbol = some g → g.InRange)) ∧
    (t.Every IsPositive ↔ ∀ name symbol g, t.composition? name symbol = some g → g.InRange) := by
  refine ⟨fun name symbol g hg => factor?_of_composition? hload hg,
    fun name symbol x hx => isPositive_iff_of_factor? hload hx,
    fun h name symbol g hg => ?_, fun h c hc => ?_⟩
  · have hcomposed := factor?_of_composition? hload hg
    obtain ⟨c, hc, hfactor⟩ := Option.bind_eq_some_iff.mp hcomposed
    have hpositive := (h c (List.mem_of_find?_eq_some hc)).factor? hfactor
    exact (isPositive_iff_of_factor? hload hcomposed).mp hpositive g hg
  · rcases every_isPositive_or_category? hload hc with hpositive | ⟨name, hname⟩
    · exact hpositive
    · refine (indexed_of_load hload c hc).every_iff.mpr fun symbol x hx => ?_
      have hfactor : t.factor? name symbol = some x := by
        rw [Table.factor?, hname]
        exact hx
      exact (isPositive_iff_of_factor? hload hfactor).mpr (h name symbol)

end

/-- A configuration with one mass, one length and one time. -/
def oneOfEach (mass length time : Float) : Json.Value :=
  .object [("LENGTH", .object [("m", .float length)]), ("MASS", .object [("kg", .float mass)]),
    ("TIME", .object [("s", .float time)]), ("FORCE", .object []), ("PRESSURE", .object [])]

theorem every_isPositive_iff_oneOfEach :
    ∃ t, load (oneOfEach 1 1 60) = .ok t ∧
      t.composition? "FORCE" "kg-m/s^2" = some (.force 1 1 60) ∧
      (Composition.force 1 1 60).InRange := by
  have hload : ((load (oneOfEach 1 1 60)).toOption.map fun t =>
      (t.composition? "FORCE" "kg-m/s^2", decide (IsPositive (Composition.force 1 1 60).factor))) =
        some (some (.force 1 1 60), true) := by decide +kernel
  obtain ⟨t, ht, hanswers⟩ := Option.map_eq_some_iff.mp hload
  obtain ⟨hcomposition, hpositive⟩ := Prod.mk.inj hanswers
  have ht := eq_ok_of_toOption ht
  obtain ⟨hcomposed, hunit, -⟩ := every_isPositive_iff ht
  have hfactor := hcomposed "FORCE" "kg-m/s^2" _ hcomposition
  exact ⟨t, ht, hcomposition, (hunit _ _ _ hfactor).mp (of_decide_eq_true hpositive) _ hcomposition⟩

/-- A factor can be infinite: here the square of a short time is zero. -/
theorem not_every_isPositive_short_time :
    ∃ t, load (oneOfEach 1 1 1e-200) = .ok t ∧
      ∃ x, t.factor? "FORCE" "kg-m/s^2" = some x ∧ x.isFinite = false := by
  have hload : ((load (oneOfEach 1 1 1e-200)).toOption.bind fun t =>
      (t.factor? "FORCE" "kg-m/s^2").map Float.isFinite) = some false := by decide +kernel
  obtain ⟨t, ht, hfactor⟩ := Option.bind_eq_some_iff.mp hload
  obtain ⟨x, hx, hfinite⟩ := Option.map_eq_some_iff.mp hfactor
  exact ⟨t, eq_ok_of_toOption ht, x, hx, hfinite⟩

end Table
end Equate.Unit
