import Equate.Proofs.Name.Map
import Equate.Proofs.Problem.LineByLine

/-!
# Resolved systems are well formed

Whatever source a system comes from, its unknowns are the names in its equations, each
once and in the order of their first appearance; every unknown has a guess and nothing
else has one; bounds are about unknowns and in order; and the parameters have distinct
names from lines further and further down, none of which an unknown has.
-/
namespace Equate.Problem
open Text Success

/-- What a solver relies on. -/
structure WellFormed (p : Problem) : Prop where
  nodup : p.unknowns.Nodup
  named : ∀ name, name ∈ p.unknowns ↔ name ∈ p.equations.flatMap Name.identifiers
  ordered : p.unknowns.Pairwise fun a b =>
    (p.equations.flatMap Name.identifiers).idxOf a < (p.equations.flatMap Name.identifiers).idxOf b
  guessed : ∀ name, name ∈ p.guesses ↔ name ∈ p.unknowns
  bounded : ∀ name b, p.bounds[name]? = some b → name ∈ p.unknowns ∧ b.low ≤ b.high
  distinct : (p.parameters.map Parameter.name).Nodup
  identifier : ∀ q ∈ p.parameters, Name.isIdentifier q.name = true ∧ ∀ c ∈ q.name, c.toNat < 128
  unreserved : ∀ q ∈ p.parameters, Name.isReserved q.name = false
  descending : (p.parameters.map Parameter.line).Pairwise (· < ·)
  disjoint : ∀ name ∈ p.unknowns, name ∉ p.parameters.map Parameter.name

/-! ## The order of first appearance -/

theorem idxOf_lt_of_filter {α : Type} [BEq α] [LawfulBEq α] {p : α → Bool} {xs : List α} {a b : α}
    (ha : p a = true) (hb : p b = true) (h : (xs.filter p).idxOf a < (xs.filter p).idxOf b) :
    xs.idxOf a < xs.idxOf b := by
  induction xs with
  | nil => exact absurd h (Nat.lt_irrefl _)
  | cons x xs ih =>
    rw [List.filter_cons] at h
    rw [List.idxOf_cons, List.idxOf_cons]
    split at h
    · next hx =>
      rw [List.idxOf_cons, List.idxOf_cons] at h
      cases hxb : x == b with
      | true => simp [hxb] at h
      | false =>
        cases hxa : x == a with
        | true => simp
        | false =>
          simp only [hxa, hxb, cond_false, Nat.add_lt_add_iff_right] at h ⊢
          exact ih h
    · next hx =>
      have hxa : (x == a) = false := by
        rw [beq_eq_false_iff_ne]
        rintro rfl
        exact hx ha
      have hxb : (x == b) = false := by
        rw [beq_eq_false_iff_ne]
        rintro rfl
        exact hx hb
      simp only [hxa, hxb, cond_false, Nat.add_lt_add_iff_right]
      exact ih h

theorem nodup_eraseDups {α : Type} [BEq α] [LawfulBEq α] (xs : List α) : xs.eraseDups.Nodup := by
  match xs with
  | [] => exact List.nodup_nil
  | x :: xs =>
    rw [List.eraseDups_cons, List.nodup_cons]
    refine ⟨fun hx => ?_, nodup_eraseDups _⟩
    have := (List.mem_filter.mp (List.mem_eraseDups.mp hx)).2
    simp at this
termination_by xs.length
decreasing_by exact Nat.lt_succ_of_le (List.length_filter_le _ _)

/-- Without repetitions each member stands where it first appeared among the others. -/
theorem pairwise_idxOf_eraseDups {α : Type} [BEq α] [LawfulBEq α] (xs : List α) :
    xs.eraseDups.Pairwise fun a b => xs.idxOf a < xs.idxOf b := by
  match xs with
  | [] => exact List.Pairwise.nil
  | x :: xs =>
    have hkept : ∀ a ∈ (xs.filter fun y => !y == x).eraseDups, (a == x) = false := by
      intro a ha
      simpa using (List.mem_filter.mp (List.mem_eraseDups.mp ha)).2
    have hfirst : ∀ a ∈ (xs.filter fun y => !y == x).eraseDups,
        (x :: xs).idxOf a = xs.idxOf a + 1 := by
      intro a ha
      have hne : (x == a) = false := beq_eq_false_iff_ne.mpr (beq_eq_false_iff_ne.mp (hkept a ha)).symm
      rw [List.idxOf_cons, hne, cond_false]
    rw [List.eraseDups_cons, List.pairwise_cons]
    refine ⟨fun a ha => ?_, ?_⟩
    · rw [List.idxOf_cons_self, hfirst a ha]
      exact Nat.succ_pos _
    · refine (pairwise_idxOf_eraseDups _).imp_of_mem fun {a b} ha hb hab => ?_
      rw [hfirst a ha, hfirst b hb]
      refine Nat.succ_lt_succ (idxOf_lt_of_filter ?_ ?_ hab)
      · rw [hkept a ha, Bool.not_false]
      · rw [hkept b hb, Bool.not_false]
termination_by xs.length
decreasing_by exact Nat.lt_succ_of_le (List.length_filter_le _ _)

/-! ## Maps by name -/

theorem mem_foldl_insertIfNew {α : Type} {names : List Text} {value : α} {m : NameMap α}
    {name : Text} :
    name ∈ names.foldl (fun m name => m.insertIfNew name value) m ↔ name ∈ m ∨ name ∈ names := by
  induction names generalizing m with
  | nil => simp
  | cons n names ih =>
    rw [List.foldl_cons, ih, Std.ExtTreeMap.mem_insertIfNew, Std.LawfulEqCmp.compare_eq_iff_eq,
      List.mem_cons]
    constructor
    · rintro ((rfl | h) | h)
      · exact .inr (.inl rfl)
      · exact .inl h
      · exact .inr (.inr h)
    · rintro (h | rfl | h)
      · exact .inl (.inr h)
      · exact .inl (.inl rfl)
      · exact .inr h

/-! ## Systems of sources -/

section Collected
variable {equations : List Text} {guesses : NameMap Float} {bounds : NameMap Bound}
variable {parameters : List Parameter}

/-- The guesses that are kept and those that are filled in are those of the unknowns. -/
theorem mem_guesses_collect {name : Text} :
    name ∈ (collect equations guesses bounds parameters).1.guesses ↔
      name ∈ (collect equations guesses bounds parameters).1.unknowns := by
  rw [collect, mem_foldl_insertIfNew]
  refine or_iff_right_of_imp fun h => ?_
  obtain ⟨value, hvalue⟩ := NameMap.mem_iff_exists.mp h
  rw [Std.ExtTreeMap.getElem?_filter', Option.filter_eq_some_iff] at hvalue
  exact List.contains_iff_mem.mp hvalue.2

theorem getElem?_bounds_collect {name : Text} {b : Bound}
    (h : (collect equations guesses bounds parameters).1.bounds[name]? = some b) :
    name ∈ (collect equations guesses bounds parameters).1.unknowns ∧ bounds[name]? = some b := by
  rw [collect, Std.ExtTreeMap.getElem?_filter', Option.filter_eq_some_iff] at h
  exact ⟨List.contains_iff_mem.mp h.2, h.1⟩

variable {name : Text}

theorem filter_unknowns {α : Type} {unknowns : List Text} (m : NameMap α) (h : name ∈ unknowns) :
    (m.filter fun name _ => unknowns.contains name)[name]? = m[name]? := by
  rw [Std.ExtTreeMap.getElem?_filter', List.contains_iff_mem.mpr h]
  cases m[name]? <;> rfl

theorem getElem?_guesses_collect
    (h : name ∈ (collect equations guesses bounds parameters).1.unknowns) :
    (collect equations guesses bounds parameters).1.guesses[name]? =
      guesses[name]?.or (some defaultGuess) := by
  have hunknown : name ∈ (equations.flatMap Name.identifiers).eraseDups := h
  rw [collect, NameMap.getElem?_foldl_insertIfNew, if_pos hunknown, filter_unknowns guesses hunknown]

theorem getElem?_bounds_collect_of_mem
    (h : name ∈ (collect equations guesses bounds parameters).1.unknowns) :
    (collect equations guesses bounds parameters).1.bounds[name]? = bounds[name]? := by
  rw [collect]
  exact filter_unknowns bounds h

end Collected

/-- Names are made of ASCII characters. -/
theorem toNat_lt_of_isIdentifier {name : Text} (h : Name.isIdentifier name = true) {c : Char}
    (hc : c ∈ name) : c.toNat < 128 := by
  have hcontinue := Name.isContinue_of_isIdentifier h hc
  rw [Name.isContinue_eq, Bool.or_eq_true, Name.isStart_iff_toNat, Char.isDigit_iff_toNat] at hcontinue
  simp only [Char.reduceToNat] at hcontinue
  omega

section Compiled
variable {ls : List Text} {s : Scope} {r : Readings} (h : Compiles ls s r)
include h

theorem Compiles.valid : s.Valid := (Scope.reachable_ofDefinitions h.scope).valid

/-- No parameter is named in an equation. -/
theorem Compiles.not_mem_parameters {e name : Text} (he : e ∈ r.equations)
    (hname : name ∈ Name.identifiers e) : name ∉ s.parameters.map Parameter.name := by
  rw [h.equations_eq] at he
  obtain ⟨line, -, rfl⟩ := List.mem_map.mp he
  rw [Name.identifiers_trim] at hname
  exact h.valid.not_mem_of_mem_identifiers hname

theorem Compiles.bounds_ordered {name : Text} {b : Bound}
    (hb : (NameMap.ofEntries (r.keeps.map fun k => (k.name, k.bound)))[name]? = some b) :
    b.low ≤ b.high := by
  obtain ⟨k, hk, heq⟩ := List.mem_map.mp (NameMap.mem_of_getElem?_ofEntries hb)
  obtain rfl : k.bound = b := congrArg Prod.snd heq
  obtain ⟨x, -, hread⟩ := exists_of_mem_mapM h.read.keeps hk
  obtain ⟨_, _, _, low, high, -, -, -, hle, rfl⟩ := Directive.readKeep_eq_ok.mp hread
  exact hle

/-- Parameters stand on lines further and further down. -/
theorem Compiles.pairwise_line : (s.parameters.map Parameter.line).Pairwise (· < ·) := by
  have hnumbers : (ls.zipIdx 1).Pairwise fun x y => x.2 < y.2 := by
    rw [← List.pairwise_map (R := (· < ·)), List.zipIdx_map_snd]
    exact List.pairwise_lt_range'
  have hline : ∀ (x : Text × Nat) d, definition? x.1 x.2 = some d → d.line = x.2 := by
    intro x d hd
    obtain ⟨parts, -, rfl⟩ := Option.map_eq_some_iff.mp hd
    rfl
  rw [Scope.map_line_ofDefinitions h.scope, List.pairwise_map]
  refine hnumbers.filterMap _ fun x y hxy d hd e he => ?_
  rw [hline x d hd, hline y e he]
  exact hxy

theorem Compiles.wellFormed : (r.collect s).1.WellFormed where
  nodup := nodup_eraseDups _
  named _ := List.mem_eraseDups
  ordered := pairwise_idxOf_eraseDups _
  guessed _ := mem_guesses_collect
  bounded name b hb :=
    ⟨(getElem?_bounds_collect hb).1, h.bounds_ordered (getElem?_bounds_collect hb).2⟩
  distinct := h.valid.nodup
  identifier q hq :=
    ⟨h.valid.identifier q hq, fun _ => toNat_lt_of_isIdentifier (h.valid.identifier q hq)⟩
  unreserved := h.valid.unreserved
  descending := h.pairwise_line
  disjoint name hname := by
    obtain ⟨e, he, hname⟩ := List.mem_flatMap.mp (List.mem_eraseDups.mp hname)
    exact h.not_mem_parameters he hname

end Compiled

/-- The system of every source is well formed. -/
theorem wellFormed_ofSource {units : Unit.Table} {source : Text} {p : Problem}
    {warnings : List Warning} (h : ofSource units source = .ok (p, warnings)) : p.WellFormed := by
  obtain ⟨text, s, r, -, hcompiles, heq⟩ := ofSource_eq_ok.mp h
  rw [show p = (r.collect s).1 from congrArg Prod.fst heq]
  exact hcompiles.wellFormed

/-- For instance the system of a fall over a height, with a parameter and a bound. -/
theorem wellFormed_fall :
    ∃ p warnings, ofSource ⟨[]⟩ "g: 9.8\nkeep t on [0, 5]\ng * t = u" = .ok (p, warnings) ∧
      p.unknowns = [['t'], ['u']] ∧ p.WellFormed := by
  exact ⟨_, _, ofSource_fall, by decide +kernel, wellFormed_ofSource ofSource_fall⟩

end Equate.Problem
