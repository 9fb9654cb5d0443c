import Mathlib.Data.List.ProdSigma
import Equate.Proofs.Name.Map
import Equate.Proofs.Unit.Reordering
import Equate.Proofs.Unit.Symbols

/-!
# What loading generates

A table has the categories of its configuration in their order, and one for torques. Only three of
them are more than what has been configured, and the units that complete them are the combinations
of nested loops: forces over times, lengths and masses, pressures and torques over lengths and the
forces that are then there. Symbols may coincide with each other and with configured ones. Then the
first of them gives the place, and the last of them the factor.
-/
namespace Equate.Unit
open Success

/-! ## Units that are completed -/

/-- Units have been completed by generated ones. The old symbols come first, then each new one in
the order of its first generation. A symbol has the factor that was generated last for it, or its
old factor if none was. -/
structure Completes (old generated units : List (Text × Float)) : Prop where
  symbols : units.map Prod.fst =
    old.map Prod.fst ++ ((generated.map Prod.fst).removeAll (old.map Prod.fst)).eraseDups
  factors : ∀ symbol x, (symbol, x) ∈ units ↔
    generated.reverse.lookup symbol = some x ∨ symbol ∉ generated.map Prod.fst ∧ (symbol, x) ∈ old

/-- Units that are each generated once stay as they are. -/
theorem Completes.eq_of_nodup {generated units : List (Text × Float)} (h : Completes [] generated units)
    (hd : (generated.map Prod.fst).Nodup) : units = generated := by
  have hsymbols : units.map Prod.fst = generated.map Prod.fst := by
    have hall : (generated.map Prod.fst).removeAll [] = generated.map Prod.fst :=
      List.filter_eq_self.mpr fun _ _ => rfl
    rw [h.symbols, List.map_nil, List.nil_append, hall, eraseDups_of_nodup hd]
  have hmem : ∀ u ∈ units, u ∈ generated := by
    rintro ⟨symbol, x⟩ hu
    have hlast := ((h.factors symbol x).mp hu).resolve_right fun hold => absurd hold.2 List.not_mem_nil
    rwa [← NameMap.getElem?_ofEntries_eq_lookup, NameMap.getElem?_ofEntries hd] at hlast
  refine List.ext_getElem ?_ fun place hunit hgenerated => ?_
  · rw [← List.length_map Prod.fst, hsymbols, List.length_map]
  · refine List.inj_on_of_nodup_map hd (hmem _ (List.getElem_mem _)) (List.getElem_mem _) ?_
    rw [← List.getElem_map Prod.fst, ← List.getElem_map Prod.fst]
    · simp only [hsymbols]
    · rwa [List.length_map]
    · rwa [List.length_map]

theorem lookup_eq_none_iff_not_mem {entries : List (Text × Float)} {symbol : Text} :
    entries.lookup symbol = none ↔ symbol ∉ entries.map Prod.fst := by
  rw [List.lookup_eq_none_iff, List.mem_map]
  simp only [bne_iff_ne, ne_eq, not_exists, not_and]
  exact forall₂_congr fun _ _ => ⟨Ne.symm, Ne.symm⟩

namespace Category
variable {c : Category}

theorem Filled.exists_records {P : Float → Prop} (h : c.Filled P) : ∃ entries, c.Records entries := by
  obtain ⟨name, entries, -, rfl⟩ := h
  exact ⟨entries, (records_empty name).insertAll entries⟩

theorem Records.completes {before : List (Text × Float)} (h : c.Records before)
    (entries : List (Text × Float)) : Completes c.toList entries (c.insertAll entries).toList where
  symbols := by
    have hsame : (entries.map Prod.fst).removeAll (before.map Prod.fst) =
        (entries.map Prod.fst).removeAll c.symbols := by
      refine List.filter_congr fun symbol _ => ?_
      rw [h.ordered, List.elem_eq_contains, List.elem_eq_contains, Bool.eq_iff_iff]
      simp
    show (c.insertAll entries).symbols =
      c.symbols ++ ((entries.map Prod.fst).removeAll c.symbols).eraseDups
    rw [(h.insertAll entries).ordered, List.map_append, List.eraseDups_append, hsame, h.ordered]
  factors symbol x := by
    rw [(h.insertAll entries).indexed.mem_toList_iff, h.indexed.factor?_insertAll, Option.or_eq_some_iff,
      h.indexed.mem_toList_iff, lookup_eq_none_iff_not_mem, List.map_reverse, List.mem_reverse]

end Category

/-! ## Insertion into tables -/

namespace Table

theorem completes_insertInto {P : Float → Prop} {cs : List Category} (hcs : ∀ c ∈ cs, c.Filled P)
    (name : Text) (entries : List (Text × Float)) :
    Completes ((Table.mk cs).unitsOf name) entries
      ((Table.mk (insertInto name entries cs)).unitsOf name) := by
  unfold unitsOf category?
  rw [find?_insertInto_self]
  cases hfind : cs.find? fun c => c.name == name with
  | none => exact (Category.records_empty name).completes entries
  | some c =>
    obtain ⟨before, hrecords⟩ := (hcs c (List.mem_of_find?_eq_some hfind)).exists_records
    exact hrecords.completes entries

theorem getElem?_insertInto_of_ne {name : Text} {entries : List (Text × Float)} {cs : List Category}
    {place : Nat} {c : Category} (hc : cs[place]? = some c) (hname : c.name ≠ name) :
    (insertInto name entries cs)[place]? = some c := by
  induction cs generalizing place with
  | nil => cases hc
  | cons d cs ih =>
    rw [insertInto]
    cases place with
    | zero =>
      cases hc
      rw [if_neg hname]
      rfl
    | succ place =>
      split
      · exact hc
      · exact ih hc

end Table

/-! ## Loops -/

section
variable (times lengths masses forces : List (Text × Float))

/-- The forces of all times, lengths and masses. -/
def forcesOver : List (Text × Float) :=
  (times ×ˢ lengths ×ˢ masses).map fun (t, l, m) =>
    (m.1 ++ "-" ++ l.1 ++ "/" ++ t.1 ++ "^2", m.2 * l.2 / (t.2 * t.2))

/-- The pressures of all lengths and forces. -/
def pressuresOver : List (Text × Float) :=
  (lengths ×ˢ forces).map fun (l, f) => (f.1 ++ "/" ++ l.1 ++ "^2", f.2 / (l.2 * l.2))

/-- The torques of all lengths and forces, each under two symbols. -/
def torquesOver : List (Text × Float) :=
  (lengths ×ˢ forces).flatMap fun (l, f) =>
    [(f.1 ++ "-" ++ l.1, f.2 * l.2), (l.1 ++ "-" ++ f.1, f.2 * l.2)]

theorem composedForces_eq_forcesOver :
    Table.composedForces times lengths masses = forcesOver times lengths masses := by
  simp only [Table.composedForces, forcesOver, SProd.sprod, List.product, List.map_flatMap,
    List.map_map, Function.comp_def]

theorem composedPressures_eq_pressuresOver :
    Table.composedPressures lengths forces = pressuresOver lengths forces := by
  simp only [Table.composedPressures, pressuresOver, SProd.sprod, List.product, List.map_flatMap,
    List.map_map, Function.comp_def]

theorem composedTorques_eq_torquesOver :
    Table.composedTorques lengths forces = torquesOver lengths forces := by
  simp only [Table.composedTorques, torquesOver, SProd.sprod, List.product, List.flatMap_assoc,
    List.flatMap_map]

end

/-! ## Configurations and their tables -/

/-- The units that a member of a configuration writes, if all of their factors are numbers. -/
def written? (entries : List (Text × Json.Value)) : Option (List (Text × Float)) :=
  entries.mapM fun e => e.2.toFloat?.map (e.1, ·)

/-- A category is configured with the units that it writes. If it writes a symbol twice, the first
gives the place and the last the factor. -/
def Configures (m : Text × Json.Value) (c : Text × List (Text × Float)) : Prop :=
  ∃ entries written, m = (c.1, .object entries) ∧ written? entries = some written ∧
    Completes [] written c.2 ∧ ((written.map Prod.fst).Nodup → c.2 = written)

/-- The units that are configured under a name. -/
def unitsIn (configured : List (Text × List (Text × Float))) (name : Text) : List (Text × Float) :=
  (configured.lookup name).getD []

/-- The table of configured categories. -/
structure Specified (configured : List (Text × List (Text × Float))) (t : Table) : Prop where
  names : t.categories.map Category.name =
    if ("TORQUE" : Text) ∈ configured.map Prod.fst then configured.map Prod.fst
    else configured.map Prod.fst ++ [("TORQUE" : Text)]
  others : ∀ (place : Nat) name units, configured[place]? = some (name, units) →
    name ∉ (["FORCE", "PRESSURE", "TORQUE"] : List Text) →
    ∃ c, t.categories[place]? = some c ∧ c.name = name ∧ c.toList = units
  forces : Completes (unitsIn configured "FORCE")
    (forcesOver (unitsIn configured "TIME") (unitsIn configured "LENGTH") (unitsIn configured "MASS"))
    (t.unitsOf "FORCE")
  pressures : Completes (unitsIn configured "PRESSURE")
    (pressuresOver (unitsIn configured "LENGTH") (t.unitsOf "FORCE")) (t.unitsOf "PRESSURE")
  torques : Completes (unitsIn configured "TORQUE")
    (torquesOver (unitsIn configured "LENGTH") (t.unitsOf "FORCE")) (t.unitsOf "TORQUE")

namespace Table

theorem toFloat?_of_readFactor {category symbol : Text} {value : Json.Value} {x : Float}
    (h : readFactor category symbol value = .ok x) : value.toFloat? = some x := by
  unfold readFactor at h
  split at h
  · cases h
  · next hvalue =>
    split at h
    · cases h
      exact hvalue
    · cases h

theorem exists_written?_of_readEntries {entries : List (Text × Json.Value)} {c c' : Category}
    (h : readEntries c entries = .ok c') :
    ∃ written, written? entries = some written ∧ c' = c.insertAll written := by
  induction entries generalizing c with
  | nil =>
    cases h
    exact ⟨[], rfl, rfl⟩
  | cons e entries ih =>
    obtain ⟨x, hx, h⟩ := bind_eq_ok.mp h
    obtain ⟨written, hwritten, rfl⟩ := ih h
    refine ⟨(e.1, x) :: written, ?_, rfl⟩
    rw [written?, List.mapM_cons, toFloat?_of_readFactor hx, ← written?, hwritten]
    rfl

/-- A category with its units, as a configuration has it. -/
def listing (c : Category) : Text × List (Text × Float) := (c.name, c.toList)

theorem configures_listing {members : List (Text × Json.Value)} {cs : List Category}
    (h : readCategories members = .ok cs) : List.Forall₂ Configures members (cs.map listing) := by
  rw [List.forall₂_map_right_iff]
  refine (readCategories_eq_ok_iff.mp h).imp ?_
  rintro ⟨name, value⟩ c ⟨entries, rfl, hc⟩
  obtain ⟨written, hwritten, rfl⟩ := exists_written?_of_readEntries hc
  have hcompletes : Completes [] written ((Category.empty name).insertAll written).toList :=
    (Category.records_empty name).completes written
  refine ⟨entries, written, ?_, hwritten, hcompletes, hcompletes.eq_of_nodup⟩
  rw [listing, Category.name_insertAll]
  rfl

theorem unitsIn_map_listing (cs : List Category) (name : Text) :
    unitsIn (cs.map listing) name = (Table.mk cs).unitsOf name := by
  induction cs with
  | nil => rfl
  | cons c cs ih =>
    unfold unitsIn unitsOf category? at *
    rw [List.map_cons, listing, List.lookup_cons, List.find?_cons, BEq.comm (a := name)]
    cases c.name == name with
    | true => rfl
    | false => exact ih

theorem map_fst_map_listing (cs : List Category) :
    (cs.map listing).map Prod.fst = cs.map Category.name := by
  rw [List.map_map]
  rfl

/-! ### The three categories that are generated -/

section
variable {t : Table} (ht : t.Filled fun _ => True)
include ht

theorem completes_withForces : Completes (t.unitsOf "FORCE")
    (forcesOver (t.unitsOf "TIME") (t.unitsOf "LENGTH") (t.unitsOf "MASS"))
    (t.withForces.unitsOf "FORCE") := by
  rw [← composedForces_eq_forcesOver]
  exact completes_insertInto ht "FORCE" _

theorem completes_pressures : Completes (t.unitsOf "PRESSURE")
    (pressuresOver (t.unitsOf "LENGTH") (t.unitsOf "FORCE"))
    (t.withPressuresAndTorques.unitsOf "PRESSURE") := by
  have hsame : t.withPressuresAndTorques.unitsOf "PRESSURE" = _ :=
    unitsOf_insertInto_of_ne (by decide) _ _
  rw [← composedPressures_eq_pressuresOver, hsame]
  exact completes_insertInto ht "PRESSURE" _

theorem completes_torques : Completes (t.unitsOf "TORQUE")
    (torquesOver (t.unitsOf "LENGTH") (t.unitsOf "FORCE"))
    (t.withPressuresAndTorques.unitsOf "TORQUE") := by
  have hfilled : ∀ c ∈ insertInto "PRESSURE"
      (composedPressures (t.unitsOf "LENGTH") (t.unitsOf "FORCE")) t.categories,
      c.Filled fun _ => True := filled_insertInto (fun _ _ => trivial) ht
  have hcompletes := completes_insertInto hfilled "TORQUE"
    (composedTorques (t.unitsOf "LENGTH") (t.unitsOf "FORCE"))
  rw [unitsOf_insertInto_of_ne (by decide)] at hcompletes
  rw [← composedTorques_eq_torquesOver]
  exact hcompletes

end

theorem getElem?_composed {cs : List Category} {place : Nat} {c : Category} (hc : cs[place]? = some c)
    (hname : c.name ∉ (["FORCE", "PRESSURE", "TORQUE"] : List Text)) :
    (Table.mk cs).withForces.withPressuresAndTorques.categories[place]? = some c := by
  simp only [List.mem_cons, List.not_mem_nil, or_false, not_or] at hname
  obtain ⟨hforce, hpressure, htorque⟩ := hname
  exact getElem?_insertInto_of_ne
    (getElem?_insertInto_of_ne (getElem?_insertInto_of_ne hc hforce) hpressure) htorque

/-- Loading gives exactly the table that is specified by the categories of the configuration. -/
theorem specified_load {configuration : Json.Value} {t : Table} (hload : load configuration = .ok t) :
    ∃ members configured, configuration = .object members ∧
      List.Forall₂ Configures members configured ∧ Specified configured t := by
  obtain ⟨members, cs, rfl, hcs, -, ht⟩ := load_eq_ok.mp hload
  have hread : (Table.mk cs).Filled fun _ => True := filled_readCategories (fun _ _ _ => trivial) hcs
  have hforces : (Table.mk cs).withForces.Filled fun _ => True :=
    filled_insertInto (fun _ _ => trivial) hread
  have hlengths : (Table.mk cs).withForces.unitsOf "LENGTH" = unitsIn (cs.map listing) "LENGTH" := by
    rw [unitsOf_withForces _ (by decide), unitsIn_map_listing]
  have hunits : (Table.mk cs).withForces.unitsOf "FORCE" = t.unitsOf "FORCE" := by
    rw [ht, unitsOf_withPressuresAndTorques _ (by decide) (by decide)]
  refine ⟨members, cs.map listing, rfl, configures_listing hcs, ?_⟩
  constructor
  case names => rw [map_fst_map_listing, map_name_load hload, map_name_readCategories hcs]
  case others =>
    intro place name units hplace hname
    rw [List.getElem?_map] at hplace
    obtain ⟨c, hc, heq⟩ := Option.map_eq_some_iff.mp hplace
    cases heq
    exact ⟨c, ht ▸ getElem?_composed hc hname, rfl, rfl⟩
  case forces =>
    rw [← hunits]
    simp only [unitsIn_map_listing]
    exact completes_withForces hread
  case pressures =>
    have hcompletes := completes_pressures hforces
    rwa [unitsOf_withForces _ (by decide), hlengths, hunits, ← unitsIn_map_listing, ← ht] at hcompletes
  case torques =>
    have hcompletes := completes_torques hforces
    rwa [unitsOf_withForces _ (by decide), hlengths, hunits, ← unitsIn_map_listing, ← ht] at hcompletes

/-- Symbols with the mark between them in it: two forces of this configuration have one symbol, and
it is configured too. -/
def colliding : Json.Value :=
  .object [("LENGTH", .object [("c", .float 5), ("b-c", .float 7)]),
    ("MASS", .object [("a-b", .float 2), ("a", .float 3)]), ("TIME", .object [("s", .float 1)]),
    ("FORCE", .object [("N", .float 1), ("a-b-c/s^2", .float 9)]), ("PRESSURE", .object [])]

theorem specified_load_colliding :
    ∃ t members configured, load colliding = .ok t ∧ colliding = .object members ∧
      List.Forall₂ Configures members configured ∧ Specified configured t ∧
      t.unitsOf "FORCE" =
        (["N", "a-b-c/s^2", "a-c/s^2", "a-b-b-c/s^2"] : List Text).zip [1, 21, 15, 14] := by
  have hload : ((load colliding).toOption.map fun t => t.unitsOf "FORCE") =
      some ((["N", "a-b-c/s^2", "a-c/s^2", "a-b-b-c/s^2"] : List Text).zip [1, 21, 15, 14]) := by
    decide +kernel
  obtain ⟨t, ht, hforces⟩ := Option.map_eq_some_iff.mp hload
  have ht := eq_ok_of_toOption ht
  obtain ⟨members, configured, hmembers, hconfigured, hspecified⟩ := specified_load ht
  exact ⟨t, members, configured, ht, hmembers, hconfigured, hspecified, hforces⟩

end Table
end Equate.Unit
