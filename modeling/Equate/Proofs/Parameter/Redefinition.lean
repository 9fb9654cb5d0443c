import Equate.Proofs.Parameter.Reachable

/-!
# Parameters defined again

What a definition leads to does not depend on the line it stands on. Definitions with the
names and expressions of a scope's parameters, in their order, lead to the same parameters
on other lines.
-/
namespace Equate

/-- A parameter without the line that defines it. -/
def Parameter.unplaced (p : Parameter) : Text × Float × Text := (p.name, p.value, p.expression)

/-- What a definition says, without the line that says it. -/
def Definition.unplaced (d : Definition) : Text × Text := (d.name, d.expression)

namespace Scope
open Success

/-- Where every name has the same parameter apart from its line, it has the same value. -/
theorem value?_eq_of_unplaced {s s' : Scope} (h : ∀ name, (s.parameter? name).map Parameter.unplaced =
    (s'.parameter? name).map Parameter.unplaced) : s.value? = s'.value? := by
  funext name
  have hmap := congrArg (Option.map fun x : Text × Float × Text => x.2.1) (h name)
  rw [Option.map_map, Option.map_map] at hmap
  exact hmap

/-- The same parameters in the same order, perhaps from other lines. -/
structure Alike (s s' : Scope) : Prop where
  parameters : s.parameters.map Parameter.unplaced = s'.parameters.map Parameter.unplaced
  index : s.index = s'.index

namespace Alike
variable {s s' : Scope} (h : Alike s s')
include h

theorem length_eq : s.parameters.length = s'.parameters.length := by
  have hlength := congrArg List.length h.parameters
  rwa [List.length_map, List.length_map] at hlength

theorem parameter?_unplaced (name : Text) :
    (s.parameter? name).map Parameter.unplaced = (s'.parameter? name).map Parameter.unplaced := by
  have hplace : ∀ i : Nat, (s.parameters[i]?).map Parameter.unplaced =
      (s'.parameters[i]?).map Parameter.unplaced := by
    intro i
    rw [← List.getElem?_map, ← List.getElem?_map, h.parameters]
  rw [parameter?, parameter?, h.index]
  cases s'.index[name]? with
  | none => rfl
  | some i => exact hplace i

theorem value? : s.value? = s'.value? := value?_eq_of_unplaced h.parameter?_unplaced

theorem push {p p' : Parameter} (hp : p.unplaced = p'.unplaced) : Alike (s.push p) (s'.push p') := by
  constructor
  · show (s.parameters ++ [p]).map _ = (s'.parameters ++ [p']).map _
    rw [List.map_append, List.map_append, h.parameters, List.map_singleton, List.map_singleton, hp]
  · have hname : p.name = p'.name := congrArg Prod.fst hp
    show s.index.insert p.name _ = s'.index.insert p'.name _
    rw [h.index, h.length_eq, hname]

/-- A definition is carried out in both or in none. -/
theorem define {d d' : Definition} (hd : d.unplaced = d'.unplaced) {t : Scope}
    (ht : s.define d = .ok t) : ∃ t', s'.define d' = .ok t' ∧ Alike t t' := by
  have hname : d.name = d'.name := congrArg Prod.fst hd
  have hexpression : d.expression = d'.expression := congrArg Prod.snd hd
  obtain ⟨hidentifier, hreserved, hnew, value, hvalue, rfl⟩ := define_eq_ok.mp ht
  have hnew' : s'.parameter? d'.name = none := by
    have hmap := h.parameter?_unplaced d.name
    rw [hnew, Option.map_none] at hmap
    rw [← hname]
    exact Option.map_eq_none_iff.mp hmap.symm
  rw [hname] at hidentifier hreserved
  rw [h.value?, hexpression] at hvalue
  refine ⟨_, define_eq_ok.mpr ⟨hidentifier, hreserved, hnew', value, hvalue, rfl⟩, h.push ?_⟩
  rw [Parameter.unplaced, Parameter.unplaced, hname, hexpression]

theorem foldlM_define {ds ds' : List Definition}
    (hds : ds.map Definition.unplaced = ds'.map Definition.unplaced) {t : Scope}
    (ht : ds.foldlM Scope.define s = .ok t) :
    ∃ t', ds'.foldlM Scope.define s' = .ok t' ∧ Alike t t' := by
  induction ds generalizing s s' ds' with
  | nil =>
    cases ht
    rw [List.map_nil, eq_comm, List.map_eq_nil_iff] at hds
    subst hds
    exact ⟨s', rfl, h⟩
  | cons d ds ih =>
    obtain ⟨d', ds', rfl, hd, hds⟩ := List.map_eq_cons_iff.mp hds.symm
    obtain ⟨next, hnext, hrun⟩ := bind_eq_ok.mp ht
    obtain ⟨next', hnext', halike⟩ := h.define hd.symm hnext
    obtain ⟨t', ht', hend⟩ := ih halike hds.symm hrun
    exact ⟨t', bind_eq_ok.mpr ⟨next', hnext', ht'⟩, hend⟩

end Alike

/-- A run of definitions adds a parameter for each, with its name and expression. -/
theorem map_foldlM_define {s t : Scope} {ds : List Definition} (h : ds.foldlM define s = .ok t) :
    t.parameters.map (fun p => (p.name, p.expression)) =
      s.parameters.map (fun p => (p.name, p.expression)) ++ ds.map Definition.unplaced := by
  induction ds generalizing s with
  | nil =>
    cases h
    rw [List.map_nil, List.append_nil]
  | cons d ds ih =>
    obtain ⟨next, hnext, hrun⟩ := bind_eq_ok.mp h
    obtain ⟨-, -, -, value, -, rfl⟩ := define_eq_ok.mp hnext
    rw [ih hrun]
    simp [Scope.push, Definition.unplaced]

theorem map_ofDefinitions {s : Scope} {ds : List Definition} (h : ofDefinitions ds = .ok s) :
    s.parameters.map (fun p => (p.name, p.expression)) = ds.map Definition.unplaced :=
  map_foldlM_define h

/-- The parameters of a scope with the numbers of the first lines for their own. -/
def renumbered (ps : List Parameter) : List Parameter :=
  (ps.zipIdx 1).map fun (p, n) => { p with line := n }

theorem map_name_renumbered (ps : List Parameter) :
    (renumbered ps).map Parameter.name = ps.map Parameter.name := by
  rw [renumbered, List.map_map]
  show (ps.zipIdx 1).map (Parameter.name ∘ Prod.fst) = _
  rw [← List.map_map, List.zipIdx_map_fst]

/-- Defined again on the first lines, the parameters of a scope are the same apart from their
lines. -/
theorem ofDefinitions_again {s : Scope} {ds ds' : List Definition} (h : ofDefinitions ds = .ok s)
    (hds : ds'.map Definition.unplaced = s.parameters.map fun p => (p.name, p.expression))
    (hlines : ds'.map Definition.line = List.range' 1 s.parameters.length) :
    ∃ s', ofDefinitions ds' = .ok s' ∧ s'.value? = s.value? ∧ s'.parameters = renumbered s.parameters := by
  have hsame : ds.map Definition.unplaced = ds'.map Definition.unplaced :=
    (map_ofDefinitions h).symm.trans hds.symm
  have hempty : Alike Scope.empty Scope.empty := ⟨rfl, rfl⟩
  obtain ⟨s', hs', halike⟩ := hempty.foldlM_define hsame h
  refine ⟨s', hs', halike.value?.symm, ?_⟩
  have hnumbers : s'.parameters.map Parameter.line = List.range' 1 s.parameters.length :=
    (map_line_ofDefinitions hs').trans hlines
  apply List.ext_getElem?
  intro i
  have hplaced := congrArg (·[i]?) halike.parameters
  have hnumber := congrArg (·[i]?) hnumbers
  simp only [List.getElem?_map] at hplaced hnumber
  rw [renumbered, List.getElem?_map, List.getElem?_zipIdx]
  cases hp : s.parameters[i]? with
  | none =>
    rw [hp, Option.map_none, eq_comm, Option.map_eq_none_iff] at hplaced
    rw [hplaced]
    rfl
  | some p =>
    rw [hp, Option.map_some] at hplaced
    obtain ⟨p', hp', hsame⟩ := Option.map_eq_some_iff.mp hplaced.symm
    have hi : i < s.parameters.length := (List.getElem?_eq_some_iff.mp hp).1
    rw [hp', Option.map_some, List.getElem?_range' hi] at hnumber
    rw [hp']
    obtain ⟨name, value, expression, line⟩ := p
    obtain ⟨name', value', expression', line'⟩ := p'
    simp only [Parameter.unplaced, Prod.mk.injEq] at hsame
    obtain ⟨rfl, rfl, rfl⟩ := hsame
    have hline : line' = 1 + i := by simpa using hnumber
    rw [hline]
    rfl

end Scope
end Equate
