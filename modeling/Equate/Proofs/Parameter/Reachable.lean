import Equate.Parameter.Scope
import Equate.Proofs.Success

/-!
# Scopes that definitions lead to

A scope is reached from the empty one by carrying out definitions. Every such scope keeps
its names distinct, never takes one that is no identifier or is reserved, holds finite
values only, and its index finds each parameter by its name.
-/
namespace Equate

namespace Expr
open Success

theorem finite_eq_ok {x v : Float} : finite x = .ok v ↔ x.isFinite = true ∧ x = v := by
  unfold finite
  split <;> simp_all

/-- A value is finite at every node, so in particular at the root. -/
theorem isFinite_of_eval {scope : Text → Option Float} {e : Expr} {v : Float}
    (h : e.eval scope = .ok v) : v.isFinite = true := by
  have hfinite : ∀ {x}, finite x = .ok v → v.isFinite = true := by
    intro x hx
    obtain ⟨hfinite, rfl⟩ := finite_eq_ok.mp hx
    exact hfinite
  cases e with
  | num x => exact hfinite h
  | var name =>
    rw [eval] at h
    split at h
    · cases h
    · exact hfinite h
  | neg a =>
    obtain ⟨x, -, h⟩ := bind_eq_ok.mp h
    exact hfinite h
  | div a b =>
    obtain ⟨x, -, h⟩ := bind_eq_ok.mp h
    obtain ⟨y, -, h⟩ := bind_eq_ok.mp h
    split at h
    · cases h
    · exact hfinite h
  | _ a b =>
    obtain ⟨x, -, h⟩ := bind_eq_ok.mp h
    obtain ⟨y, -, h⟩ := bind_eq_ok.mp h
    exact hfinite h

/-- A text that is one finite number has that value in every scope. -/
theorem evaluate_of_tokens_num {t : Text} {x : Float} (h : tokens 0 t = .ok [(0, .num x)])
    (hx : x.isFinite = true) (scope : Text → Option Float) : evaluate scope t = .ok x := by
  rw [evaluate, parse, h, ok_bind]
  simp [expr, term, unary, primary, products, sums, eval, finite, hx]

end Expr

namespace Scope
open Success

/-- The scopes that definitions lead to. -/
inductive Reachable : Scope → Prop
  | empty : Reachable empty
  | define {s s' : Scope} {d : Definition} : Reachable s → s.define d = .ok s' → Reachable s'

/-- What holds of every scope that definitions lead to. -/
structure Valid (s : Scope) : Prop where
  nodup : (s.parameters.map Parameter.name).Nodup
  identifier : ∀ p ∈ s.parameters, Name.isIdentifier p.name = true
  unreserved : ∀ p ∈ s.parameters, Name.isReserved p.name = false
  finite : ∀ p ∈ s.parameters, p.value.isFinite = true
  indexed : ∀ name i, s.index[name]? = some i ↔
    ∃ p : Parameter, s.parameters[i]? = some p ∧ p.name = name

/-- When a definition is carried out and what it leads to. -/
theorem define_eq_ok {s s' : Scope} {d : Definition} :
    s.define d = .ok s' ↔
      Name.isIdentifier d.name = true ∧ Name.isReserved d.name = false ∧
        s.parameter? d.name = none ∧ ∃ value, Expr.evaluate s.value? d.expression = .ok value ∧
          s' = s.push ⟨d.name, value, d.expression, d.line⟩ := by
  unfold define
  cases Name.isIdentifier d.name with
  | false => simp
  | true =>
    cases Name.isReserved d.name with
    | true => simp
    | false =>
      cases s.parameter? d.name with
      | some existing => simp
      | none => cases Expr.evaluate s.value? d.expression <;> simp [eq_comm]

theorem getElem?_append_singleton_iff {ps : List Parameter} {p q : Parameter} {i : Nat} :
    (ps ++ [p])[i]? = some q ↔ ps[i]? = some q ∨ i = ps.length ∧ q = p := by
  rw [List.getElem?_append]
  split
  · next hlt => simp [Nat.ne_of_lt hlt]
  · next hge =>
    rw [List.getElem?_eq_none (Nat.not_lt.mp hge), List.getElem?_singleton]
    split
    · next hi => simp [show i = ps.length by omega, eq_comm]
    · next hi => simp [show i ≠ ps.length by omega]

namespace Valid
variable {s : Scope} (h : s.Valid)
include h

theorem parameter?_eq_some {name : Text} {p : Parameter} :
    s.parameter? name = some p ↔ p ∈ s.parameters ∧ p.name = name := by
  rw [parameter?, Option.bind_eq_bind, Option.bind_eq_some_iff]
  constructor
  · rintro ⟨i, hi, hp⟩
    obtain ⟨q, hq, rfl⟩ := (h.indexed name i).mp hi
    cases hq.symm.trans hp
    exact ⟨List.mem_of_getElem? hp, rfl⟩
  · rintro ⟨hp, rfl⟩
    obtain ⟨i, hi⟩ := List.mem_iff_getElem?.mp hp
    exact ⟨i, (h.indexed p.name i).mpr ⟨p, hi, rfl⟩, hi⟩

theorem parameter?_eq_none {name : Text} :
    s.parameter? name = none ↔ name ∉ s.parameters.map Parameter.name := by
  rw [Option.eq_none_iff_forall_ne_some, List.mem_map, not_exists]
  exact forall_congr' fun p => not_congr h.parameter?_eq_some

theorem value?_eq_some {name : Text} {value : Float} :
    s.value? name = some value ↔ ∃ p ∈ s.parameters, p.name = name ∧ p.value = value := by
  rw [value?, Option.map_eq_some_iff]
  simp only [h.parameter?_eq_some, and_assoc]

theorem value?_eq_none {name : Text} :
    s.value? name = none ↔ name ∉ s.parameters.map Parameter.name := by
  rw [value?, Option.map_eq_none_iff, h.parameter?_eq_none]

theorem contains_iff {name : Text} :
    s.contains name = true ↔ name ∈ s.parameters.map Parameter.name := by
  rw [contains, ← Std.ExtTreeMap.isSome_getElem?_eq_contains, Option.isSome_iff_exists, List.mem_map]
  simp only [h.indexed]
  constructor
  · rintro ⟨i, p, hp, hname⟩
    exact ⟨p, List.mem_of_getElem? hp, hname⟩
  · rintro ⟨p, hp, hname⟩
    obtain ⟨i, hi⟩ := List.mem_iff_getElem?.mp hp
    exact ⟨i, p, hi, hname⟩

/-- A new parameter is found at the end, and the others where they were. -/
theorem indexed_push {p : Parameter} (hfresh : p.name ∉ s.parameters.map Parameter.name)
    (name : Text) (i : Nat) : (s.push p).index[name]? = some i ↔
      ∃ q : Parameter, (s.push p).parameters[i]? = some q ∧ q.name = name := by
  show (s.index.insert p.name s.parameters.length)[name]? = some i ↔
    ∃ q : Parameter, (s.parameters ++ [p])[i]? = some q ∧ q.name = name
  rw [Std.ExtTreeMap.getElem?_insert]
  simp only [getElem?_append_singleton_iff, or_and_right, exists_or, ← h.indexed]
  split
  · next heq =>
    have hname : p.name = name := Std.LawfulEqCmp.eq_of_compare heq
    subst hname
    have hnone : s.index[p.name]? = none := by
      rw [Option.eq_none_iff_forall_ne_some]
      intro j hj
      obtain ⟨q, hq, hname⟩ := (h.indexed p.name j).mp hj
      exact hfresh (List.mem_map.mpr ⟨q, List.mem_of_getElem? hq, hname⟩)
    rw [hnone, Option.some.injEq]
    constructor
    · rintro rfl
      exact .inr ⟨p, ⟨rfl, rfl⟩, rfl⟩
    · rintro (h | ⟨q, ⟨rfl, -⟩, -⟩)
      · cases h
      · rfl
  · next hne =>
    have hname : p.name ≠ name := fun hname => hne (hname ▸ Std.ReflCmp.compare_self)
    simp [hname]

theorem push {p : Parameter} (hnew : s.parameter? p.name = none)
    (hidentifier : Name.isIdentifier p.name = true) (hreserved : Name.isReserved p.name = false)
    (hfinite : p.value.isFinite = true) : (s.push p).Valid := by
  have hfresh := h.parameter?_eq_none.mp hnew
  have hlift : ∀ {P : Parameter → Prop}, (∀ q ∈ s.parameters, P q) → P p →
      ∀ q ∈ s.parameters ++ [p], P q :=
    fun hs hp => List.forall_mem_append.mpr ⟨hs, List.forall_mem_singleton.mpr hp⟩
  refine ⟨?_, hlift h.identifier hidentifier, hlift h.unreserved hreserved,
    hlift h.finite hfinite, h.indexed_push hfresh⟩
  show ((s.parameters ++ [p]).map Parameter.name).Nodup
  rw [List.map_append, List.nodup_append]
  refine ⟨h.nodup, by simp, fun a ha b hb hab => ?_⟩
  rw [List.map_singleton, List.mem_singleton] at hb
  exact hfresh (hb ▸ hab ▸ ha)

end Valid

/-- Definitions never lead to a scope that is not valid. -/
theorem Reachable.valid {s : Scope} (h : s.Reachable) : s.Valid := by
  induction h with
  | empty =>
    refine ⟨List.nodup_nil, nofun, nofun, nofun, fun name i => ?_⟩
    simp [Scope.empty]
  | define _ hdefine ih =>
    obtain ⟨hidentifier, hreserved, hnew, value, hvalue, rfl⟩ := define_eq_ok.mp hdefine
    obtain ⟨e, -, he⟩ := bind_eq_ok.mp hvalue
    exact ih.push hnew hidentifier hreserved (Expr.isFinite_of_eval he)

/-- A run of definitions leads to a reachable scope with one parameter for each of them, on
its line. -/
theorem foldlM_define {s s' : Scope} {ds : List Definition} (h : s.Reachable)
    (hrun : ds.foldlM define s = .ok s') :
    s'.Reachable ∧
      s'.parameters.map Parameter.line = s.parameters.map Parameter.line ++ ds.map Definition.line := by
  induction ds generalizing s with
  | nil =>
    cases hrun
    exact ⟨h, by simp⟩
  | cons d ds ih =>
    obtain ⟨next, hnext, hrun⟩ := bind_eq_ok.mp hrun
    obtain ⟨hreach, hlines⟩ := ih (.define h hnext) hrun
    refine ⟨hreach, ?_⟩
    obtain ⟨-, -, -, value, -, rfl⟩ := define_eq_ok.mp hnext
    simpa [Scope.push] using hlines

theorem ofDefinitions_append (ds : List Definition) (d : Definition) :
    ofDefinitions (ds ++ [d]) = ofDefinitions ds >>= fun s => s.define d := by
  have hone : ∀ s : Scope, [d].foldlM define s = s.define d := fun s => bind_pure _
  rw [ofDefinitions, List.foldlM_append]
  exact bind_congr hone

theorem reachable_ofDefinitions {s : Scope} {ds : List Definition}
    (h : ofDefinitions ds = .ok s) : s.Reachable :=
  (foldlM_define .empty h).1

theorem map_line_ofDefinitions {s : Scope} {ds : List Definition} (h : ofDefinitions ds = .ok s) :
    s.parameters.map Parameter.line = ds.map Definition.line := by
  simpa [Scope.empty] using (foldlM_define .empty h).2

/-- A single definition by a finite number. -/
theorem ofDefinitions_num {d : Definition} {x : Float} (hidentifier : Name.isIdentifier d.name = true)
    (hreserved : Name.isReserved d.name = false)
    (hexpression : Expr.tokens 0 d.expression = .ok [(0, .num x)]) (hx : x.isFinite = true) :
    ofDefinitions [d] = .ok (empty.push ⟨d.name, x, d.expression, d.line⟩) := by
  have hnew : empty.parameter? d.name = none :=
    Reachable.empty.valid.parameter?_eq_none.mpr List.not_mem_nil
  have hvalue := Expr.evaluate_of_tokens_num hexpression hx empty.value?
  exact bind_eq_ok.mpr ⟨_, define_eq_ok.mpr ⟨hidentifier, hreserved, hnew, x, hvalue, rfl⟩, rfl⟩

end Scope
end Equate
