import Mathlib.Data.List.Induction
import Equate.Name.Basic
import Equate.Proofs.Success

/-!
# Maps and their entries

A map is built from its own entries again, whatever list of them with distinct names is
taken. Filtering that keeps every name and filling in names that are there change nothing.
-/
namespace Equate.NameMap
open Success

variable {α : Type}

/-- Entries are put into a map one after another, so the last of a name counts. -/
theorem getElem?_foldl_insert (entries : List (Text × α)) (m : NameMap α) (name : Text) :
    (entries.foldl (fun m e => m.insert e.1 e.2) m)[name]? =
      (entries.reverse.lookup name).or m[name]? := by
  induction entries using List.reverseRecOn with
  | nil => rfl
  | append_singleton entries e ih =>
    rw [List.foldl_append, List.foldl_cons, List.foldl_nil, Std.ExtTreeMap.getElem?_insert, ih,
      List.reverse_append, List.reverse_singleton, List.singleton_append, List.lookup_cons]
    by_cases hname : e.1 = name
    · subst hname
      simp
    · rw [if_neg fun heq => hname (Std.LawfulEqCmp.eq_of_compare heq),
        show (name == e.1) = false from beq_eq_false_iff_ne.mpr (Ne.symm hname)]

/-- Of several entries with one name the last counts. -/
theorem getElem?_ofEntries_eq_lookup (entries : List (Text × α)) (name : Text) :
    (ofEntries entries)[name]? = entries.reverse.lookup name := by
  refine (getElem?_foldl_insert entries ∅ name).trans ?_
  rw [Std.ExtTreeMap.getElem?_empty, Option.or_none]

theorem mem_of_lookup_eq_some {entries : List (Text × α)} {name : Text} {value : α}
    (h : entries.lookup name = some value) : (name, value) ∈ entries := by
  obtain ⟨before, after, rfl, -⟩ := List.lookup_eq_some_iff.mp h
  exact List.mem_append_right before List.mem_cons_self

theorem mem_of_getElem?_ofEntries {entries : List (Text × α)} {name : Text} {value : α}
    (h : (ofEntries entries)[name]? = some value) : (name, value) ∈ entries := by
  rw [getElem?_ofEntries_eq_lookup] at h
  exact List.mem_reverse.mp (mem_of_lookup_eq_some h)

/-- With distinct names every entry counts. -/
theorem getElem?_ofEntries {entries : List (Text × α)} (hd : (entries.map Prod.fst).Nodup)
    {name : Text} {value : α} :
    (ofEntries entries)[name]? = some value ↔ (name, value) ∈ entries := by
  refine ⟨mem_of_getElem?_ofEntries, fun h => ?_⟩
  rw [getElem?_ofEntries_eq_lookup, List.lookup_eq_some_iff]
  obtain ⟨before, after, hsplit⟩ := List.append_of_mem (List.mem_reverse.mpr h)
  refine ⟨before, after, hsplit, fun e he => ?_⟩
  -- No entry in front has the name, since all names are distinct.
  have hnames : (entries.reverse.map Prod.fst).Nodup :=
    ((List.reverse_perm entries).map Prod.fst).nodup_iff.mpr hd
  rw [hsplit, List.map_append, List.nodup_append] at hnames
  exact bne_iff_ne.mpr (hnames.2.2 e.1 (List.mem_map_of_mem he) name List.mem_cons_self).symm

theorem mem_iff_exists {m : NameMap α} {name : Text} :
    name ∈ m ↔ ∃ value, m[name]? = some value := by
  rw [Std.ExtTreeMap.mem_iff_isSome_getElem?, Option.isSome_iff_exists]

theorem nodup_toList (m : NameMap α) : (m.toList.map Prod.fst).Nodup := by
  rw [List.Nodup, List.pairwise_map]
  refine Std.ExtTreeMap.distinct_keys_toList.imp fun {a b} hne heq => hne ?_
  rw [heq]
  exact Std.ReflCmp.compare_self

/-- The entries of a map make the map. -/
theorem ofEntries_toList (m : NameMap α) : ofEntries m.toList = m := by
  apply Std.ExtTreeMap.ext_getElem?
  intro name
  apply Option.ext
  intro value
  rw [getElem?_ofEntries (nodup_toList m), Std.ExtTreeMap.mem_toList_iff_getElem?_eq_some]

/-- A filter by names that keeps them all. -/
theorem filter_eq_self {m : NameMap α} {p : Text → Bool} (h : ∀ name ∈ m, p name = true) :
    m.filter (fun name _ => p name) = m := by
  apply Std.ExtTreeMap.ext_getElem?
  intro name
  rw [Std.ExtTreeMap.getElem?_filter']
  cases hvalue : m[name]? with
  | none => rfl
  | some value =>
    exact Option.filter_some_pos (h name (mem_iff_exists.mpr ⟨value, hvalue⟩))

/-- Names that are there are not filled in. -/
theorem foldl_insertIfNew_eq_self {m : NameMap α} {names : List Text} {value : α}
    (h : ∀ name ∈ names, name ∈ m) :
    names.foldl (fun m name => m.insertIfNew name value) m = m := by
  induction names with
  | nil => rfl
  | cons n names ih =>
    obtain ⟨hn, hnames⟩ := List.forall_mem_cons.mp h
    have hsame : m.insertIfNew n value = m := by
      apply Std.ExtTreeMap.ext_getElem?
      intro name
      rw [Std.ExtTreeMap.getElem?_insertIfNew, if_neg]
      rintro ⟨heq, hnew⟩
      exact hnew hn
    rw [List.foldl_cons, hsame, ih hnames]

theorem lookup_filter (entries : List (Text × α)) (name : Text) :
    (entries.filter fun e => e.1 == name).lookup name = entries.lookup name := by
  induction entries with
  | nil => rfl
  | cons e entries ih =>
    rw [List.filter_cons, List.lookup_cons, BEq.comm (a := name)]
    cases h : e.1 == name with
    | true => rw [if_pos rfl, List.lookup_cons, BEq.comm, h]
    | false => rw [if_neg Bool.false_ne_true, ih]

/-- The order of entries matters only where they have one name. -/
theorem ofEntries_congr {entries entries' : List (Text × α)}
    (h : ∀ name, (entries.filter fun e => e.1 == name) = entries'.filter fun e => e.1 == name) :
    ofEntries entries = ofEntries entries' := by
  apply Std.ExtTreeMap.ext_getElem?
  intro name
  rw [getElem?_ofEntries_eq_lookup, getElem?_ofEntries_eq_lookup, ← lookup_filter, List.filter_reverse,
    h name, ← List.filter_reverse, lookup_filter]

theorem lookup_map {β : Type} (f : α → β) (entries : List (Text × α)) (name : Text) :
    (entries.map fun e => (e.1, f e.2)).lookup name = (entries.lookup name).map f := by
  induction entries with
  | nil => rfl
  | cons e entries ih =>
    rw [List.map_cons, List.lookup_cons, List.lookup_cons, ih]
    cases name == e.1 <;> rfl

/-- A map of values that have been read is looked up by looking up what they were read from. -/
theorem getElem?_ofEntries_read {β : Type} {read? : α → Option β} {entries : List (Text × β)}
    {written : List (Text × α)} {name : Text}
    (h : entries.map (fun e => (e.1, some e.2)) = written.map fun e => (e.1, read? e.2)) :
    (ofEntries entries)[name]?.map some = (written.reverse.lookup name).map read? := by
  rw [getElem?_ofEntries_eq_lookup, ← lookup_map, ← lookup_map, List.map_reverse,
    List.map_reverse, h]

/-- Of the members of a list with one name the last counts. -/
theorem getElem?_ofEntries_map {β : Type} (key : β → Text) (value : β → α) (xs : List β)
    (name : Text) : (ofEntries (xs.map fun x => (key x, value x)))[name]? =
      (xs.filter fun x => key x == name).getLast?.map value := by
  rw [getElem?_ofEntries_eq_lookup]
  induction xs using List.reverseRecOn with
  | nil => rfl
  | append_singleton xs x ih =>
    rw [List.map_append, List.reverse_append, List.map_singleton, List.reverse_singleton,
      List.singleton_append, List.lookup_cons, List.filter_append, List.filter_cons,
      List.filter_nil, BEq.comm (a := name)]
    cases key x == name with
    | true => rw [if_pos rfl, List.getLast?_concat, Option.map_some]
    | false => rw [if_neg Bool.false_ne_true, List.append_nil, ih]

theorem mem_ofEntries_map {β : Type} {key : β → Text} {value : β → α} {xs : List β} {name : Text} :
    name ∈ ofEntries (xs.map fun x => (key x, value x)) ↔ name ∈ xs.map key := by
  rw [Std.ExtTreeMap.mem_iff_isSome_getElem?, getElem?_ofEntries_map, Option.isSome_map,
    List.getLast?_isSome, List.mem_map, Ne, List.filter_eq_nil_iff]
  simp

/-- Names that come one before the other in a map are in order. -/
theorem lt_of_compare_eq_lt {a b : Text} (h : compare a b = .lt) : a < b := by
  induction a generalizing b with
  | nil =>
    cases b with
    | nil => cases h
    | cons d b => exact List.nil_lt_cons d b
  | cons c a ih =>
    cases b with
    | nil => cases h
    | cons d b =>
      rw [List.compare_cons_cons] at h
      rw [List.cons_lt_cons_iff]
      rcases Ordering.then_eq_lt.mp h with hlt | ⟨heq, hlt⟩
      · exact .inl (compareOfLessAndEq_eq_lt.mp hlt)
      · exact .inr ⟨Std.LawfulEqCmp.eq_of_compare heq, ih hlt⟩

theorem pairwise_keys (m : NameMap α) : m.keys.Pairwise (· < ·) :=
  Std.ExtTreeMap.ordered_keys.imp lt_of_compare_eq_lt

/-- Names that are not there are filled in with one value. -/
theorem getElem?_foldl_insertIfNew {m : NameMap α} {names : List Text} {value : α} {name : Text} :
    (names.foldl (fun m name => m.insertIfNew name value) m)[name]? =
      m[name]?.or (if name ∈ names then some value else none) := by
  induction names generalizing m with
  | nil => simp
  | cons n names ih =>
    rw [List.foldl_cons, ih, Std.ExtTreeMap.getElem?_insertIfNew]
    by_cases hn : n = name
    · subst hn
      have hself : compare n n = .eq := Std.ReflCmp.compare_self
      have hmem : n ∈ m ↔ m[n]?.isSome = true := Std.ExtTreeMap.mem_iff_isSome_getElem?
      simp only [hself, hmem, true_and, List.mem_cons, true_or, if_true]
      cases m[n]? <;> simp
    · have hne : ¬ compare n name = .eq := fun heq => hn (Std.LawfulEqCmp.eq_of_compare heq)
      simp [hne, Ne.symm hn]

/-! ## Maps read again -/

/-- A map with each value replaced, if all of them can be. -/
def traverse? {β : Type} (f : α → Option β) (m : NameMap α) : Option (NameMap β) :=
  (m.toList.mapM fun e => (f e.2).map (e.1, ·)).map ofEntries

theorem lookup_reverse_toList (m : NameMap α) (name : Text) :
    m.toList.reverse.lookup name = m[name]? := by
  rw [← getElem?_ofEntries_eq_lookup, ofEntries_toList]

theorem exists_traverse? {β : Type} {f : α → Option β} {m : NameMap α}
    (h : ∀ (name : Text) x, m[name]? = some x → ∃ y, f x = some y) : ∃ m', traverse? f m = some m' := by
  obtain ⟨es, hes⟩ : ∃ es, m.toList.mapM (fun e => (f e.2).map (e.1, ·)) = some es := by
    apply exists_mapM_eq_some
    intro e he
    obtain ⟨y, hy⟩ := h e.1 e.2 (Std.ExtTreeMap.mem_toList_iff_getElem?_eq_some.mp he)
    exact ⟨(e.1, y), by rw [hy, Option.map_some]⟩
  exact ⟨ofEntries es, congrArg (Option.map ofEntries) hes⟩

/-- The new map has the same names, each with the value that its old one is replaced by. -/
theorem traverse?_eq_some_iff {β : Type} {f : α → Option β} {m : NameMap α} {m' : NameMap β} :
    traverse? f m = some m' ↔ ∀ name : Text, m'[name]?.map some = m[name]?.map f := by
  have hvalues : ∀ {m' : NameMap β}, traverse? f m = some m' →
      ∀ name : Text, m'[name]?.map some = m[name]?.map f := by
    intro m' h name
    obtain ⟨es, hes, rfl⟩ := Option.map_eq_some_iff.mp h
    rw [← lookup_reverse_toList m]
    apply getElem?_ofEntries_read
    refine map_of_mapM_eq_some (fun e e' he => ?_) hes
    obtain ⟨y, hy, rfl⟩ := Option.map_eq_some_iff.mp he
    rw [hy]
  constructor
  · exact hvalues
  · intro h
    obtain ⟨m'', hm⟩ : ∃ m'', traverse? f m = some m'' := by
      apply exists_traverse?
      intro name x hx
      have hvalue := h name
      rw [hx, Option.map_some] at hvalue
      obtain ⟨y, -, hy⟩ := Option.map_eq_some_iff.mp hvalue
      exact ⟨y, hy.symm⟩
    rw [hm, Option.some.injEq]
    apply Std.ExtTreeMap.ext_getElem?
    intro name
    have hnew := (hvalues hm name).trans (h name).symm
    exact Option.map_injective (fun _ _ => Option.some.inj) hnew

theorem traverse?_eq_some_self {f : α → Option α} {m : NameMap α} :
    traverse? f m = some m ↔ ∀ (name : Text) x, m[name]? = some x → f x = some x := by
  rw [traverse?_eq_some_iff]
  refine forall_congr' fun name => ?_
  cases m[name]? with
  | none => simp
  | some x => simp [eq_comm]

end Equate.NameMap
