import Mathlib.Data.List.Induction
import Equate.Proofs.Parameter.History
import Equate.Proofs.Parameter.Redefinition

/-!
# Definitions in another order

A definition looks at the values of the names that its expression uses, and at no other
parameter. Definitions that lead to a scope therefore lead to the same values in every order
in which each of them stands behind those that it uses.
-/
namespace Equate.Scope
open Success

/-- Of names with their expressions, each stands behind those that its expression uses. -/
def Ordered (xs : List (Text × Text)) : Prop :=
  ∀ before x after, xs = before ++ x :: after →
    ∀ name ∈ Expr.used x.2, name ∈ before.map Prod.fst

theorem Ordered.of_append {xs : List (Text × Text)} {x : Text × Text} (h : Ordered (xs ++ [x])) :
    Ordered xs := by
  intro before y after heq
  refine h before y (after ++ [x]) ?_
  rw [heq, List.append_assoc, List.cons_append]

theorem map_fst_unplaced (ds : List Definition) :
    (ds.map Definition.unplaced).map Prod.fst = ds.map Definition.name := by
  rw [List.map_map]
  rfl

/-- Two scopes have the same names with the same values and expressions. -/
def Agree (s s' : Scope) : Prop :=
  ∀ x, x ∈ s.parameters.map Parameter.unplaced ↔ x ∈ s'.parameters.map Parameter.unplaced

section
variable {s s' : Scope}

theorem Valid.find?_parameters (h : s.Valid) (name : Text) :
    s.parameters.find? (fun p => p.name == name) = s.parameter? name := by
  cases hfind : s.parameters.find? fun p => p.name == name with
  | some p =>
    have hname : p.name = name := by simpa using List.find?_some hfind
    exact (h.parameter?_eq_some.mpr ⟨List.mem_of_find?_eq_some hfind, hname⟩).symm
  | none =>
    refine (h.parameter?_eq_none.mpr fun hmem => ?_).symm
    obtain ⟨p, hp, hname⟩ := List.mem_map.mp hmem
    exact List.find?_eq_none.mp hfind p hp (beq_iff_eq.mpr hname)

theorem Valid.contains_eq (h : s.Valid) (name : Text) : s.contains name = (s.value? name).isSome := by
  rw [Bool.eq_iff_iff, h.contains_iff, Option.isSome_iff_ne_none, ne_eq, h.value?_eq_none, not_not]

/-- The names that an expression of a scope uses are names of the scope. -/
theorem Reachable.mem_of_mem_used (h : s.Reachable) {p : Parameter} (hp : p ∈ s.parameters)
    {name : Text} (hname : name ∈ Expr.used p.expression) : name ∈ s.parameters.map Parameter.name := by
  obtain ⟨x, hx⟩ := Expr.exists_value_of_evaluate (h.evaluate hp) name hname
  obtain ⟨q, hq, rfl, -⟩ := h.valid.value?_eq_some.mp hx
  exact List.mem_map.mpr ⟨q, hq, rfl⟩

/-- The value of a name in a scope that has a part of another one's parameters. -/
theorem value?_eq_of_subset (hs : s.Valid) (hs' : s'.Valid)
    (h : ∀ x ∈ s'.parameters.map Parameter.unplaced, x ∈ s.parameters.map Parameter.unplaced)
    {name : Text} (hname : name ∈ s'.parameters.map Parameter.name) :
    s'.value? name = s.value? name := by
  obtain ⟨q, hq, rfl⟩ := List.mem_map.mp hname
  obtain ⟨p, hp, hsame⟩ := List.mem_map.mp (h _ (List.mem_map.mpr ⟨q, hq, rfl⟩))
  have hname' : p.name = q.name := congrArg Prod.fst hsame
  have hvalue : p.value = q.value := congrArg (fun x : Text × Float × Text => x.2.1) hsame
  rw [hs'.value?_eq_some.mpr ⟨q, hq, rfl, rfl⟩, hs.value?_eq_some.mpr ⟨p, hp, hname', hvalue⟩]

theorem Agree.parameter?_unplaced (h : Agree s' s) (hs : s.Valid) (hs' : s'.Valid) (name : Text) :
    (s'.parameter? name).map Parameter.unplaced = (s.parameter? name).map Parameter.unplaced := by
  have hfound : ∀ {t : Scope} {x}, t.Valid → ((t.parameter? name).map Parameter.unplaced = some x ↔
      x ∈ t.parameters.map Parameter.unplaced ∧ x.1 = name) := by
    intro t x ht
    simp only [Option.map_eq_some_iff, ht.parameter?_eq_some, List.mem_map]
    constructor
    · rintro ⟨p, ⟨hp, rfl⟩, rfl⟩
      exact ⟨⟨p, hp, rfl⟩, rfl⟩
    · rintro ⟨⟨p, hp, rfl⟩, rfl⟩
      exact ⟨p, ⟨hp, rfl⟩, rfl⟩
  apply Option.ext
  intro x
  rw [hfound hs', hfound hs, h x]

theorem Agree.value? (h : Agree s' s) (hs : s.Valid) (hs' : s'.Valid) : s'.value? = s.value? :=
  value?_eq_of_unplaced (h.parameter?_unplaced hs hs')

end

section
variable {ds ds' : List Definition} {s : Scope}

/-- A definition of a scope is carried out with the same value in a part of that scope, if the
names that its expression uses are there. -/
theorem Reachable.define_of_subset (h : s.Reachable) {t : Scope} (ht : t.Valid)
    (hsub : ∀ x ∈ t.parameters.map Parameter.unplaced, x ∈ s.parameters.map Parameter.unplaced)
    {p : Parameter} (hp : p ∈ s.parameters) (hnew : p.name ∉ t.parameters.map Parameter.name)
    (hused : ∀ name ∈ Expr.used p.expression, name ∈ t.parameters.map Parameter.name) {d : Definition}
    (hd : (p.name, p.expression) = d.unplaced) :
    t.define d = .ok (t.push ⟨p.name, p.value, p.expression, d.line⟩) := by
  obtain ⟨hname, hexpression⟩ := Prod.mk.inj hd
  have hvalue : Expr.evaluate t.value? p.expression = .ok p.value := by
    rw [← h.evaluate hp]
    exact Expr.evaluate_congr fun name hmem => value?_eq_of_subset h.valid ht hsub (hused name hmem)
  rw [define_eq_ok, ← hname, ← hexpression]
  exact ⟨h.valid.identifier p hp, h.valid.unreserved p hp, ht.parameter?_eq_none.mpr hnew,
    p.value, hvalue, rfl⟩

/-- A run over some of the definitions of a scope takes over their parameters from it. -/
theorem ofDefinitions_of_ordered (h : s.Reachable) (hordered : Ordered (ds.map Definition.unplaced))
    (hnodup : (ds.map Definition.name).Nodup)
    (hmem : ∀ d ∈ ds, d.unplaced ∈ s.parameters.map fun p => (p.name, p.expression)) :
    ∃ t, ofDefinitions ds = .ok t ∧ t.parameters.map Parameter.name = ds.map Definition.name ∧
      ∀ x ∈ t.parameters.map Parameter.unplaced, x ∈ s.parameters.map Parameter.unplaced := by
  induction ds using List.reverseRecOn with
  | nil => exact ⟨empty, rfl, rfl, fun x hx => absurd hx List.not_mem_nil⟩
  | append_singleton ds d ih =>
    rw [List.map_append, List.map_singleton] at hordered
    rw [List.map_append, List.map_singleton, List.nodup_append] at hnodup
    obtain ⟨hnodup, -, hfresh⟩ := hnodup
    obtain ⟨hmem, hlast⟩ := List.forall_mem_append.mp hmem
    obtain ⟨t, ht, hnames, hsub⟩ := ih hordered.of_append hnodup hmem
    obtain ⟨p, hp, hsame⟩ := List.mem_map.mp (hlast d (List.mem_singleton.mpr rfl))
    obtain ⟨hname, hexpression⟩ := Prod.mk.inj hsame
    have hnew : p.name ∉ t.parameters.map Parameter.name := by
      rw [hnames, hname]
      exact fun hd => hfresh _ hd _ (List.mem_singleton.mpr rfl) rfl
    have hused : ∀ name ∈ Expr.used p.expression, name ∈ t.parameters.map Parameter.name := by
      intro name hname
      rw [hnames, ← map_fst_unplaced]
      rw [hexpression] at hname
      exact hordered _ d.unplaced [] rfl name hname
    have hdefine := h.define_of_subset (reachable_ofDefinitions ht).valid hsub hp hnew hused hsame
    refine ⟨_, by rw [ofDefinitions_append, ht, ok_bind, hdefine], ?_, ?_⟩
    · rw [parameters_push, List.map_append, List.map_append, hnames, List.map_singleton,
        List.map_singleton, hname]
    · rw [parameters_push, List.map_append, List.forall_mem_append]
      exact ⟨hsub, List.forall_mem_singleton.mpr (List.mem_map.mpr ⟨p, hp, rfl⟩)⟩

/-- In any order in which each definition stands behind those it uses, the definitions of a
scope lead to one that agrees with it. -/
theorem ofDefinitions_of_perm (h : ofDefinitions ds = .ok s)
    (hperm : (ds'.map Definition.unplaced).Perm (ds.map Definition.unplaced))
    (hordered : Ordered (ds'.map Definition.unplaced)) :
    ∃ s', ofDefinitions ds' = .ok s' ∧ Agree s' s := by
  have hreach := reachable_ofDefinitions h
  have hwritten := map_ofDefinitions h
  have hnames : (ds'.map Definition.name).Perm (s.parameters.map Parameter.name) := by
    have hfirst : (s.parameters.map fun p => (p.name, p.expression)).map Prod.fst =
        s.parameters.map Parameter.name := by
      rw [List.map_map]
      rfl
    rw [← map_fst_unplaced, ← hfirst, hwritten]
    exact hperm.map _
  obtain ⟨s', hs', hnames', hsub⟩ := ofDefinitions_of_ordered hreach hordered
    (hnames.nodup_iff.mpr hreach.valid.nodup) fun d hd => by
      rw [hwritten]
      exact hperm.mem_iff.mp (List.mem_map.mpr ⟨d, hd, rfl⟩)
  refine ⟨s', hs', fun x => ⟨hsub x, fun hx => ?_⟩⟩
  obtain ⟨p, hp, rfl⟩ := List.mem_map.mp hx
  have hname : p.name ∈ s'.parameters.map Parameter.name := by
    rw [hnames', hnames.mem_iff]
    exact List.mem_map.mpr ⟨p, hp, rfl⟩
  obtain ⟨q, hq, hqname⟩ := List.mem_map.mp hname
  obtain ⟨p', hp', hsame⟩ := List.mem_map.mp (hsub _ (List.mem_map.mpr ⟨q, hq, rfl⟩))
  -- Names are distinct, so what the new scope took over under this name is this parameter.
  have hfound := hreach.valid.parameter?_eq_some.mpr ⟨hp', (congrArg Prod.fst hsame).trans hqname⟩
  obtain rfl := Option.some.inj (hfound.symm.trans (hreach.valid.parameter?_eq_some.mpr ⟨hp, rfl⟩))
  exact List.mem_map.mpr ⟨q, hq, hsame.symm⟩

end
end Equate.Scope
