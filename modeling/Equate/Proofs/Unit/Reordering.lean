import Mathlib.Data.List.Perm.Basic
import Equate.Proofs.Unit.Agreement
import Equate.Proofs.Unit.Composition

/-!
# The order of the categories

The value of a document has each name of an object once. Configurations that have the same categories in
another order are accepted together, and their tables have the same categories in another order. The
candidates of a conversion are then the same too, but the first of them, with which the others are
compared, need not be. If all candidates are near to each other there is a conversion in every order,
and a conversion in one order keeps them within about twice the tolerance; between the two the order
decides.
-/
namespace Equate.Json

/-! ## The names of an object -/

theorem map_fst_putMember (key : Text) (value : Value) (members : List (Text × Value)) :
    (putMember key value members).map Prod.fst =
      if key ∈ members.map Prod.fst then members.map Prod.fst else members.map Prod.fst ++ [key] := by
  induction members with
  | nil => rfl
  | cons m members ih =>
    rw [putMember]
    split
    · next hkey =>
      subst hkey
      exact (if_pos List.mem_cons_self).symm
    · next hkey =>
      rw [List.map_cons, ih]
      exact Unit.cons_ite_mem hkey

theorem nodup_memberValues? {depth : Nat} {members : List (Text × Json)} {known values : List (Text × Value)}
    (hknown : (known.map Prod.fst).Nodup) (h : memberValues? depth known members = some values) :
    (values.map Prod.fst).Nodup := by
  induction members generalizing known with
  | nil =>
    cases h
    exact hknown
  | cons m members ih =>
    obtain ⟨key, -, h⟩ := Option.bind_eq_some_iff.mp h
    obtain ⟨value, -, h⟩ := Option.bind_eq_some_iff.mp h
    refine ih ?_ h
    rw [map_fst_putMember]
    exact Unit.nodup_ite_mem hknown

/-- Only an object has the value of an object, and a name that it has twice is kept once. -/
theorem nodup_of_evaluate? {depth : Nat} {document : Json} {members : List (Text × Value)}
    (h : evaluate? depth document = some (.object members)) : (members.map Prod.fst).Nodup := by
  cases document with
  | null => cases h
  | bool b => cases h
  | number n =>
    rw [evaluate?, Numeral.value?] at h
    split at h
    · cases h
    · obtain ⟨_, -, heq⟩ := Option.map_eq_some_iff.mp h
      cases heq
  | string quoted =>
    obtain ⟨_, -, heq⟩ := Option.map_eq_some_iff.mp h
    cases heq
  | array items =>
    cases depth with
    | zero => cases h
    | succ depth =>
      obtain ⟨_, -, heq⟩ := Option.map_eq_some_iff.mp h
      cases heq
  | object written =>
    cases depth with
    | zero => cases h
    | succ depth =>
      obtain ⟨values, hvalues, heq⟩ := Option.map_eq_some_iff.mp h
      cases heq
      refine nodup_memberValues? ?_ hvalues
      exact List.nodup_nil

end Equate.Json

namespace Equate.Unit
open Number Success

namespace Table

/-! ## Tables that differ by order -/

theorem name_of_category? {t : Table} {name : Text} {c : Category} (h : t.category? name = some c) :
    c.name = name := by
  have hname : (c.name == name) = true := List.find?_some (p := fun c : Category => c.name == name) h
  exact beq_iff_eq.mp hname

theorem category?_eq_some_iff {t : Table} (hnames : (t.categories.map Category.name).Nodup) {name : Text}
    {c : Category} : t.category? name = some c ↔ c ∈ t.categories ∧ c.name = name := by
  constructor
  · intro h
    exact ⟨List.mem_of_find?_eq_some h, name_of_category? h⟩
  · rintro ⟨hc, rfl⟩
    have hsome : (t.category? c.name).isSome :=
      List.find?_isSome.mpr ⟨c, hc, beq_self_eq_true c.name⟩
    obtain ⟨d, hd⟩ := Option.isSome_iff_exists.mp hsome
    rw [hd, List.inj_on_of_nodup_map hnames (List.mem_of_find?_eq_some hd) hc (name_of_category? hd)]

/-- The same categories in another order, each under a name of its own. -/
structure Reordered (t t' : Table) : Prop where
  perm : t.categories.Perm t'.categories
  nodup : (t.categories.map Category.name).Nodup

/-- An insertion replaces one category and leaves the others. -/
theorem insertInto_perm (name : Text) (entries : List (Text × Float)) {cs : List Category}
    (hnames : (cs.map Category.name).Nodup) :
    (insertInto name entries cs).Perm
      ((((Table.mk cs).category? name).getD (.empty name)).insertAll entries ::
        cs.filter fun c => c.name != name) := by
  induction cs with
  | nil => exact .refl _
  | cons c cs ih =>
    obtain ⟨hfresh, hnames⟩ := List.nodup_cons.mp hnames
    rw [insertInto]
    split
    · next hname =>
      subst hname
      have hothers : ∀ d ∈ cs, (d.name != c.name) = true := fun d hd =>
        bne_iff_ne.mpr fun heq => hfresh (heq ▸ List.mem_map_of_mem hd)
      have hfind : (Table.mk (c :: cs)).category? c.name = some c :=
        List.find?_cons_of_pos (beq_self_eq_true c.name)
      rw [hfind, List.filter_cons_of_neg (by simp), List.filter_eq_self.mpr hothers]
      exact .refl _
    · next hname =>
      have hne : (c.name == name) = false := beq_eq_false_iff_ne.mpr hname
      have hfind : (Table.mk (c :: cs)).category? name = (Table.mk cs).category? name := by
        simp only [category?, List.find?_cons, hne]
      have hkeep : ((c :: cs).filter fun c => c.name != name) = c :: cs.filter fun c => c.name != name :=
        List.filter_cons_of_pos (bne_iff_ne.mpr hname)
      rw [hfind, hkeep]
      exact ((ih hnames).cons c).trans (.swap _ _ _)

namespace Reordered
variable {t t' : Table} (h : t.Reordered t')
include h

theorem nodup' : (t'.categories.map Category.name).Nodup := (h.perm.map Category.name).nodup h.nodup

theorem category?_eq (name : Text) : t.category? name = t'.category? name := by
  refine Option.ext fun c => ?_
  rw [category?_eq_some_iff h.nodup, category?_eq_some_iff h.nodup', h.perm.mem_iff]

theorem unitsOf_eq (name : Text) : t.unitsOf name = t'.unitsOf name := by
  rw [unitsOf, unitsOf, h.category?_eq]

theorem insertInto (name : Text) (entries : List (Text × Float)) :
    Reordered ⟨insertInto name entries t.categories⟩ ⟨Table.insertInto name entries t'.categories⟩ where
  perm := by
    have hfirst : (Table.mk t.categories).category? name = (Table.mk t'.categories).category? name :=
      h.category?_eq name
    refine (insertInto_perm name entries h.nodup).trans (.trans ?_ (insertInto_perm name entries h.nodup').symm)
    rw [hfirst]
    exact (h.perm.filter _).cons _
  nodup := by
    show ((Table.insertInto name entries t.categories).map Category.name).Nodup
    rw [map_name_insertInto]
    exact nodup_ite_mem h.nodup

theorem withForces : Reordered t.withForces t'.withForces := by
  unfold Table.withForces
  rw [h.unitsOf_eq, h.unitsOf_eq, h.unitsOf_eq]
  exact h.insertInto _ _

theorem withPressuresAndTorques :
    Reordered t.withPressuresAndTorques t'.withPressuresAndTorques := by
  unfold Table.withPressuresAndTorques
  rw [h.unitsOf_eq, h.unitsOf_eq]
  exact (h.insertInto _ _).insertInto _ _

theorem perm_quotients (source target : Text) :
    (t.quotients source target).Perm (t'.quotients source target) :=
  h.perm.filterMap _

end Reordered

/-! ## Configurations that differ by order -/

/-- A category is what a member of the configuration says. -/
def ReadsAs (m : Text × Json.Value) (c : Category) : Prop :=
  ∃ entries, m.2 = .object entries ∧ readEntries (.empty m.1) entries = .ok c

theorem readCategories_eq_ok_iff {members : List (Text × Json.Value)} {cs : List Category} :
    readCategories members = .ok cs ↔ List.Forall₂ ReadsAs members cs := by
  induction members generalizing cs with
  | nil =>
    rw [List.forall₂_nil_left_iff]
    exact ⟨fun h => (Except.ok.inj h).symm, fun h => congrArg Except.ok h.symm⟩
  | cons m members ih =>
    rw [List.forall₂_cons_left_iff, readCategories_cons_eq_ok]
    constructor
    · rintro ⟨entries, c, more, hentries, hc, hmore, rfl⟩
      exact ⟨c, more, ⟨entries, hentries, hc⟩, ih.mp hmore, rfl⟩
    · rintro ⟨c, more, ⟨entries, hentries, hc⟩, hmore, rfl⟩
      exact ⟨entries, c, more, hentries, hc, ih.mpr hmore, rfl⟩

theorem name_readEntries {entries : List (Text × Json.Value)} {c c' : Category}
    (h : readEntries c entries = .ok c') : c'.name = c.name := by
  induction entries generalizing c with
  | nil =>
    cases h
    rfl
  | cons e entries ih =>
    obtain ⟨x, -, h⟩ := bind_eq_ok.mp h
    exact (ih h).trans (Category.name_insert c e.1 x)

theorem map_name_readCategories {members : List (Text × Json.Value)} {cs : List Category}
    (h : readCategories members = .ok cs) : cs.map Category.name = members.map Prod.fst := by
  have hread := readCategories_eq_ok_iff.mp h
  clear h
  induction hread with
  | nil => rfl
  | cons hmember _ ih =>
    obtain ⟨entries, -, hmember⟩ := hmember
    rw [List.map_cons, List.map_cons, name_readEntries hmember, ih]
    rfl

section
variable {members members' : List (Text × Json.Value)} (horder : members.Perm members')
include horder

theorem exists_readCategories_of_perm {cs : List Category} (h : readCategories members = .ok cs) :
    ∃ cs', readCategories members' = .ok cs' ∧ cs.Perm cs' := by
  obtain ⟨cs', hcs', hperm⟩ := List.perm_comp_forall₂ horder.symm (readCategories_eq_ok_iff.mp h)
  exact ⟨cs', readCategories_eq_ok_iff.mpr hcs', hperm.symm⟩

variable (hnames : (members.map Prod.fst).Nodup) {t : Table} (hload : load (.object members) = .ok t)
include hnames hload

/-- A configuration in another order is accepted too, and gives the same table in another order. -/
theorem exists_load_of_perm : ∃ t', load (.object members') = .ok t' ∧ t.Reordered t' := by
  obtain ⟨m, cs, heq, hcs, hmissing, rfl⟩ := load_eq_ok.mp hload
  cases heq
  obtain ⟨cs', hcs', hperm⟩ := exists_readCategories_of_perm horder hcs
  have hread : Reordered ⟨cs⟩ ⟨cs'⟩ := ⟨hperm, map_name_readCategories hcs ▸ hnames⟩
  have hmissing' : missing? cs' = none := by
    rw [← hmissing, missing?, missing?]
    congr
    funext name
    rw [hperm.any_eq]
  exact ⟨_, load_eq_ok.mpr ⟨members', cs', rfl, hcs', hmissing', rfl⟩,
    hread.withForces.withPressuresAndTorques⟩

theorem reordered_load {t' : Table} (hload' : load (.object members') = .ok t') : t.Reordered t' := by
  obtain ⟨t'', ht'', hreordered⟩ := exists_load_of_perm horder hnames hload
  cases ht''.symm.trans hload'
  exact hreordered

end

end Table

/-! ## Candidates that are near to each other -/

/-- All numbers are positive and near to each other. -/
def AllNear (part : ℚ) (qs : List Float) : Prop :=
  ∀ q ∈ qs, ∀ r ∈ qs, IsPositive r ∧ Near part (value q) (value r)

/-- How far two numbers can be apart that are both near to a third. -/
def mutualLimit : ℚ := 2 * agreementLimit / (1 - agreementLimit)

theorem near_mutualLimit {q v w : ℚ} (hq : 0 < q) (hv : Near agreementLimit q v)
    (hw : Near agreementLimit q w) : Near mutualLimit v w := by
  have hpos := agreementLimit_pos
  have hlt : 0 < 1 - agreementLimit := by
    rw [agreementLimit]
    norm_num
  obtain ⟨back, hback⟩ : ∃ back, back = agreementLimit / (1 - agreementLimit) := ⟨_, rfl⟩
  have hsymm : agreementLimit + agreementLimit * back = back := by
    rw [hback]
    field_simp
    ring
  have hmutual : back + agreementLimit + back * agreementLimit = mutualLimit := by
    rw [mutualLimit, mul_div_assoc, ← hback]
    linarith
  have hreturn : Near back v q := hv.symm hsymm.le (hback ▸ div_pos hpos hlt) hq
  exact hmutual ▸ hreturn.trans hpos hw

theorem AllNear.perm {part : ℚ} {qs qs' : List Float} (h : AllNear part qs) (hperm : qs.Perm qs') :
    AllNear part qs' := fun q hq r hr => h q (hperm.mem_iff.mpr hq) r (hperm.mem_iff.mpr hr)

namespace Table
variable {configuration : Json.Value} {t : Table} (hload : Table.load configuration = .ok t)
  {source target : Text}
include hload

theorem converts_of_allNear (hsome : t.quotients source target ≠ [])
    (h : AllNear agreementLimit (t.quotients source target)) : t.Converts source target := by
  obtain ⟨q, hfirst⟩ := Option.isSome_iff_exists.mp (List.isSome_head?.mpr hsome)
  exact (converts_iff hload).mpr ⟨q, hfirst, h q (List.mem_of_head? hfirst)⟩

theorem allNear_of_converts (h : t.Converts source target) :
    AllNear mutualLimit (t.quotients source target) := by
  obtain ⟨q, hfirst, hnear⟩ := (converts_iff hload).mp h
  have hq := (hnear q (List.mem_of_head? hfirst)).1.value_pos
  exact fun v hv w hw => ⟨(hnear w hw).1, near_mutualLimit hq (hnear v hv).2 (hnear w hw).2⟩

end Table

/-! ## All orders -/

namespace Table
variable {members : List (Text × Json.Value)} {t : Table} (hload : load (.object members) = .ok t)
include hload

/-- The names of the table are those of the configuration, with that of the torques behind them if it
is missing there. -/
theorem map_name_load : t.categories.map Category.name =
    if ("TORQUE" : Text) ∈ members.map Prod.fst then members.map Prod.fst
    else members.map Prod.fst ++ [("TORQUE" : Text)] := by
  obtain ⟨m, cs, heq, hcs, hmissing, rfl⟩ := load_eq_ok.mp hload
  cases heq
  have hrequired : ∀ name ∈ required, name ∈ cs.map Category.name := by
    intro name hname
    have hany := List.find?_eq_none.mp hmissing name hname
    rw [Bool.not_eq_true', Bool.not_eq_false, List.any_eq_true] at hany
    obtain ⟨c, hc, hbeq⟩ := hany
    exact beq_iff_eq.mp hbeq ▸ List.mem_map_of_mem hc
  show (insertInto _ _ (insertInto _ _ (insertInto _ _ cs))).map Category.name = _
  rw [map_name_insertInto, map_name_insertInto, map_name_insertInto,
    if_pos (hrequired "FORCE" (by decide)), if_pos (hrequired "PRESSURE" (by decide)),
    map_name_readCategories hcs]

/-- All categories but the last are configured. -/
theorem exists_categories_eq_append : ∃ configured others, t.categories = configured ++ others ∧
    (∀ c ∈ configured, c.name ∈ members.map Prod.fst) ∧ others.length ≤ 1 := by
  have hnames := map_name_load hload
  split at hnames
  · exact ⟨t.categories, [], (List.append_nil _).symm,
      fun c hc => hnames ▸ List.mem_map_of_mem hc, Nat.zero_le 1⟩
  · obtain ⟨configured, others, hsplit, hconfigured, hothers⟩ := List.map_eq_append_iff.mp hnames
    refine ⟨configured, others, hsplit, fun c hc => hconfigured ▸ List.mem_map_of_mem hc, ?_⟩
    rw [← List.length_map, hothers]
    exact Nat.le_refl 1

variable {source target : Text}

/-- The first candidate comes from a configured category, or it is the only one. -/
theorem quotients_cases {q : Float} (hfirst : (t.quotients source target).head? = some q) :
    (∃ c ∈ t.categories, c.name ∈ members.map Prod.fst ∧ c.quotient? source target = some q) ∨
      t.quotients source target = [q] := by
  obtain ⟨configured, others, hsplit, hconfigured, hothers⟩ := exists_categories_eq_append hload
  have hquotients : t.quotients source target =
      configured.filterMap (fun c => c.quotient? source target) ++
        others.filterMap (fun c => c.quotient? source target) := by
    rw [quotients, hsplit, List.filterMap_append]
  cases hcandidates : configured.filterMap fun c => c.quotient? source target with
  | cons first rest =>
    rw [hquotients, hcandidates, List.cons_append, List.head?_cons] at hfirst
    cases hfirst
    obtain ⟨c, hc, hq⟩ : ∃ c ∈ configured, c.quotient? source target = some q :=
      List.mem_filterMap.mp (hcandidates ▸ List.mem_cons_self)
    exact .inl ⟨c, hsplit ▸ List.mem_append_left others hc, hconfigured c hc, hq⟩
  | nil =>
    rw [hcandidates, List.nil_append] at hquotients
    have hlength : (t.quotients source target).length ≤ 1 :=
      hquotients ▸ (List.length_filterMap_le _ _).trans hothers
    have hpos := List.length_pos_of_mem (List.mem_of_head? hfirst)
    obtain ⟨x, hx⟩ := List.length_eq_one_iff.mp (hlength.antisymm hpos)
    rw [hx] at hfirst
    cases hfirst
    exact .inr hx

variable (hnames : (members.map Prod.fst).Nodup)
include hnames

/-- Some order brings a configured category to the front. -/
theorem exists_reordered_head {c : Category} (hc : c ∈ t.categories) (hname : c.name ∈ members.map Prod.fst) :
    ∃ members' t' rest, members.Perm members' ∧ load (.object members') = .ok t' ∧
      t.Reordered t' ∧ t'.categories = c :: rest := by
  obtain ⟨m, hm, hmname⟩ := List.mem_map.mp hname
  obtain ⟨before, behind, rfl⟩ := List.append_of_mem hm
  have horder : (before ++ m :: behind).Perm (m :: (before ++ behind)) := List.perm_middle
  obtain ⟨t', hload', hreordered⟩ := exists_load_of_perm horder hnames hload
  have hnames' := map_name_load hload'
  obtain ⟨d, rest, hcategories⟩ : ∃ d rest, t'.categories = d :: rest := by
    refine List.exists_cons_of_ne_nil fun hnil => ?_
    rw [hnil] at hnames'
    split at hnames' <;> cases hnames'
  refine ⟨_, t', rest, horder, hload', hreordered, ?_⟩
  have hfirst : d.name = m.1 := by
    rw [hcategories] at hnames'
    split at hnames'
    · exact (List.cons.inj hnames').1
    · exact (List.cons.inj hnames').1
  have hd : d ∈ t'.categories := hcategories ▸ List.mem_cons_self
  rw [hcategories, List.inj_on_of_nodup_map hreordered.nodup' hd (hreordered.perm.mem_iff.mp hc)
    (hfirst.trans hmname)]

/-- There is a conversion in every order exactly if there is one, and every configured candidate has
all others near to it. -/
theorem converts_in_every_order_iff :
    (∀ members' t', members.Perm members' → load (.object members') = .ok t' →
        t'.Converts source target) ↔
      t.Converts source target ∧
        ∀ c ∈ t.categories, c.name ∈ members.map Prod.fst → ∀ q, c.quotient? source target = some q →
          ∀ r ∈ t.quotients source target, Near agreementLimit (value q) (value r) := by
  constructor
  · intro h
    refine ⟨h members t (.refl _) hload, fun c hc hname q hq r hr => ?_⟩
    obtain ⟨members', t', rest, horder, hload', hreordered, hcategories⟩ :=
      exists_reordered_head hload hnames hc hname
    obtain ⟨q', hfirst, hnear⟩ := (converts_iff hload').mp (h members' t' horder hload')
    have hhead : (t'.quotients source target).head? = some q := by
      rw [quotients, hcategories, List.filterMap_cons, hq]
      rfl
    cases hhead.symm.trans hfirst
    exact (hnear r ((hreordered.perm_quotients source target).mem_iff.mp hr)).2
  · rintro ⟨h, hnear⟩ members' t' horder hload'
    have hreordered := reordered_load horder hnames hload hload'
    have hperm := hreordered.perm_quotients source target
    obtain ⟨q, hfirst, hpositive⟩ := (converts_iff hload).mp h
    have hmem : ∀ {r}, r ∈ t'.quotients source target ↔ r ∈ t.quotients source target :=
      hperm.mem_iff.symm
    obtain ⟨q', hfirst'⟩ : ∃ q', (t'.quotients source target).head? = some q' :=
      Option.isSome_iff_exists.mp (List.isSome_head?.mpr
        (List.ne_nil_of_mem (hmem.mpr (List.mem_of_head? hfirst))))
    refine (converts_iff hload').mpr ⟨q', hfirst', fun r hr => ⟨(hpositive r (hmem.mp hr)).1, ?_⟩⟩
    rcases quotients_cases hload' hfirst' with ⟨c, hc, hname, hq⟩ | honly
    · have hname' := (horder.map Prod.fst).mem_iff.mpr hname
      exact hnear c (hreordered.perm.mem_iff.mpr hc) hname' q' hq r (hmem.mp hr)
    · have heq : r = q' := List.mem_singleton.mp (honly ▸ hr)
      rw [heq]
      exact near_self agreementLimit_pos (hpositive q' (hmem.mp (heq ▸ hr))).1.value_pos

/-- How far conversions depend on the order of the categories. The candidates do not, nor does it
depend on the order whether there are any. There is a conversion exactly if all candidates are near to
the first, and the first depends on the order. There is one in both orders if all candidates are near
to each other, and in neither if two of them are further apart than both can be from a third. That
there is one in every order takes no more than one, and that what is configured has all candidates
near to it. -/
theorem converts_of_reordered {members' : List (Text × Json.Value)} {t' : Table}
    (horder : members.Perm members') (hload' : load (.object members') = .ok t') (source target : Text) :
    (t.quotients source target).Perm (t'.quotients source target) ∧
    (t.conversion source target = .error (.unitNotFound source target) ↔
      t'.conversion source target = .error (.unitNotFound source target)) ∧
    (t.Converts source target ↔ ∃ q, (t.quotients source target).head? = some q ∧
      ∀ r ∈ t.quotients source target, IsPositive r ∧ Near agreementLimit (value q) (value r)) ∧
    (t.quotients source target ≠ [] → AllNear agreementLimit (t.quotients source target) →
      t.Converts source target ∧ t'.Converts source target) ∧
    (¬AllNear mutualLimit (t.quotients source target) →
      ¬t.Converts source target ∧ ¬t'.Converts source target) ∧
    ((∀ members'' t'', members.Perm members'' → load (.object members'') = .ok t'' →
        t''.Converts source target) ↔
      t.Converts source target ∧
        ∀ c ∈ t.categories, c.name ∈ members.map Prod.fst → ∀ q, c.quotient? source target = some q →
          ∀ r ∈ t.quotients source target, Near agreementLimit (value q) (value r)) := by
  have hperm := (reordered_load horder hnames hload hload').perm_quotients source target
  refine ⟨hperm, ?_, converts_iff hload, fun hsome hnear => ⟨?_, ?_⟩, fun hfar => ⟨?_, ?_⟩,
    converts_in_every_order_iff hload hnames⟩
  · rw [conversion_eq_unitNotFound_iff, conversion_eq_unitNotFound_iff, ← List.length_eq_zero_iff,
      ← List.length_eq_zero_iff, hperm.length_eq]
  · exact converts_of_allNear hload hsome hnear
  · exact converts_of_allNear hload' (fun hnil => hsome (List.perm_nil.mp (hnil ▸ hperm))) (hnear.perm hperm)
  · exact fun h => hfar (allNear_of_converts hload h)
  · exact fun h => hfar ((allNear_of_converts hload' h).perm hperm.symm)

end Table

/-- A member of a configuration with two symbols, of which the first is the unit. -/
def candidate (name : Text) (x : Float) : Text × Json.Value :=
  (name, .object [("a", .float 1), ("b", .float x)])

/-- The basic categories without units. -/
def noBasics : List (Text × Json.Value) :=
  [("LENGTH", .object []), ("MASS", .object []), ("TIME", .object [])]

theorem converts_of_reordered_thousand :
    ∃ t t', Table.load (.object (candidate "FORCE" 1000 :: candidate "PRESSURE" 1000 :: noBasics)) = .ok t ∧
      Table.load (.object (candidate "PRESSURE" 1000 :: candidate "FORCE" 1000 :: noBasics)) = .ok t' ∧
      t.quotients "a" "b" = [1000, 1000] ∧ t.Converts "a" "b" ∧ t'.Converts "a" "b" := by
  have hload : (Table.load (.object
      (candidate "FORCE" 1000 :: candidate "PRESSURE" 1000 :: noBasics))).toOption.map
        (fun t => t.quotients "a" "b") = some [1000, 1000] := by decide +kernel
  have hload' : (Table.load (.object
      (candidate "PRESSURE" 1000 :: candidate "FORCE" 1000 :: noBasics))).toOption.isSome := by
    decide +kernel
  obtain ⟨t, ht, hquotients⟩ := Option.map_eq_some_iff.mp hload
  obtain ⟨t', ht'⟩ := Option.isSome_iff_exists.mp hload'
  have ht := eq_ok_of_toOption ht
  have ht' := eq_ok_of_toOption ht'
  have hpositive : IsPositive 1000 := by decide
  have hnear : AllNear agreementLimit (t.quotients "a" "b") := by
    have hsame : ∀ q ∈ t.quotients "a" "b", q = 1000 := by
      rw [hquotients]
      simp
    intro q hq r hr
    rw [hsame q hq, hsame r hr]
    exact ⟨hpositive, near_self agreementLimit_pos hpositive.value_pos⟩
  obtain ⟨-, -, -, hboth, -⟩ :=
    Table.converts_of_reordered ht (by decide) (.swap _ _ _) ht' "a" "b"
  exact ⟨t, t', ht, ht', hquotients, hboth (by rw [hquotients]; exact List.cons_ne_nil _ _) hnear⟩

/-- The order can decide: the outer candidates are both near to the middle one, but not to each
other. -/
theorem not_converts_of_reordered :
    ∃ t t',
      Table.load (.object (candidate "FORCE" 1 :: candidate "PRESSURE" 1.0000000000009 ::
        candidate "TORQUE" 0.9999999999991 :: noBasics)) = .ok t ∧
      Table.load (.object (candidate "PRESSURE" 1.0000000000009 :: candidate "FORCE" 1 ::
        candidate "TORQUE" 0.9999999999991 :: noBasics)) = .ok t' ∧
      t.conversion "a" "b" = .ok 1 ∧
      t'.conversion "a" "b" = .error (.ambiguousUnit "a" "b" ["PRESSURE", "FORCE", "TORQUE"]) := by
  have hload : ((Table.load (.object (candidate "FORCE" 1 :: candidate "PRESSURE" 1.0000000000009 ::
      candidate "TORQUE" 0.9999999999991 :: noBasics))).toOption.map fun t =>
        (t.conversion "a" "b").toOption) = some (some 1) := by decide +kernel
  have hload' : ((Table.load (.object (candidate "PRESSURE" 1.0000000000009 :: candidate "FORCE" 1 ::
      candidate "TORQUE" 0.9999999999991 :: noBasics))).toOption.map fun t =>
        failure? (t.conversion "a" "b")) =
      some (some (.ambiguousUnit "a" "b" ["PRESSURE", "FORCE", "TORQUE"])) := by decide +kernel
  obtain ⟨t, ht, hconversion⟩ := Option.map_eq_some_iff.mp hload
  obtain ⟨t', ht', hfailure⟩ := Option.map_eq_some_iff.mp hload'
  exact ⟨t, t', eq_ok_of_toOption ht, eq_ok_of_toOption ht', eq_ok_of_toOption hconversion,
    eq_error_of_failure? hfailure⟩

end Equate.Unit
