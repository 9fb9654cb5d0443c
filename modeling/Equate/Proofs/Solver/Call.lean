import Equate.Proofs.Name.Map
import Equate.Proofs.Problem.WellFormed
import Equate.Solver.Call

/-!
# From a source to the answer of a solver

A solver is asked once if the limits can be searched with and there is an equation, and is
not asked otherwise. What it sees is the system of the source. Because no parameter is left
among the unknowns, a solution for these and the parameters lie side by side in the result.
-/
namespace Equate.Solver
open Success

/-! ## Limits -/

/-- Limits that a search can be run with. -/
structure Limits.Valid (l : Limits) : Prop where
  finite : l.tolerance.isFinite = true
  positive : 0 < l.tolerance
  iterations : 1 ≤ l.iterations

theorem Limits.check_eq_ok {l : Limits} : l.check = .ok () ↔ l.Valid := by
  unfold check
  split
  · next h =>
    refine ⟨nofun, fun hvalid => ?_⟩
    rw [hvalid.finite, decide_eq_true hvalid.positive] at h
    cases h
  · next h =>
    rw [Bool.not_eq_true', Bool.not_eq_false, Bool.and_eq_true, decide_eq_true_eq] at h
    split
    · next hzero => exact ⟨nofun, fun hvalid => absurd hvalid.iterations (by omega)⟩
    · next hzero => exact ⟨fun _ => ⟨h.1, h.2, by omega⟩, fun _ => rfl⟩

theorem Limits.exists_of_not_valid {l : Limits} (h : ¬l.Valid) :
    ∃ reason, l.check = .error (.configuration reason) := by
  rw [← check_eq_ok] at h
  unfold check at h ⊢
  split
  · exact ⟨_, rfl⟩
  · next hfinite =>
    rw [if_neg hfinite] at h
    split
    · exact ⟨_, rfl⟩
    · next hzero => exact absurd (if_neg hzero) h

/-! ## Parameters and solutions -/

theorem getElem?_overlay (parameters solution : NameMap Float) (name : Text) :
    (overlay parameters solution)[name]? = solution[name]?.or parameters[name]? := by
  refine (NameMap.getElem?_foldl_insert solution.toList parameters name).trans ?_
  rw [NameMap.lookup_reverse_toList]

/-- Nothing is laid over where no name is on both sides. -/
theorem shadowing_eq_nil {parameters solution : NameMap Float}
    (h : ∀ name ∈ solution, parameters[name]? = none) : shadowing parameters solution = [] := by
  refine List.filterMap_eq_nil_iff.mpr fun ⟨name, solved⟩ hentry => ?_
  have hvalue := Std.ExtTreeMap.mem_toList_iff_getElem?_eq_some.mp hentry
  show (parameters[name]? >>= _) = none
  rw [h name (NameMap.mem_iff_exists.mpr ⟨solved, hvalue⟩)]
  rfl

/-- A solved value is never reported as shadowing a parameter by the bounds. -/
theorem shadowed_not_mem_outsideBounds {bounds : NameMap Bound} {solution : NameMap Float}
    {name : Text} {previous solved : Float} :
    .shadowed name previous solved ∉ outsideBounds bounds solution := by
  intro h
  obtain ⟨⟨other, bound⟩, -, hentry⟩ := List.mem_filterMap.mp h
  obtain ⟨value, -, hvalue⟩ := Option.bind_eq_some_iff.mp hentry
  split at hvalue <;> cases hvalue

end Equate.Solver

namespace Equate.Problem

theorem WellFormed.getElem?_parameterValues {p : Problem} (h : p.WellFormed) {name : Text}
    {value : Float} :
    p.parameterValues[name]? = some value ↔ ∃ q ∈ p.parameters, q.name = name ∧ q.value = value := by
  have hnames : ((p.parameters.map fun q => (q.name, q.value)).map Prod.fst).Nodup := by
    rw [List.map_map]
    exact h.distinct
  rw [parameterValues, NameMap.getElem?_ofEntries hnames, List.mem_map]
  simp only [Prod.mk.injEq]

theorem WellFormed.getElem?_parameterValues_eq_none {p : Problem} (h : p.WellFormed) {name : Text}
    (hname : name ∈ p.unknowns) : p.parameterValues[name]? = none := by
  refine Option.eq_none_iff_forall_ne_some.mpr fun value hvalue => ?_
  obtain ⟨q, hq, rfl, -⟩ := h.getElem?_parameterValues.mp hvalue
  exact h.disjoint q.name hname (List.mem_map_of_mem hq)

/-- One guess for each unknown and no other. -/
theorem WellFormed.keys_guesses_perm {p : Problem} (h : p.WellFormed) :
    p.guesses.keys.Perm p.unknowns := by
  have hkeys : p.guesses.keys.Nodup := by
    rw [← Std.ExtTreeMap.map_fst_toList_eq_keys]
    exact NameMap.nodup_toList p.guesses
  refine (List.perm_ext_iff_of_nodup hkeys h.nodup).mpr fun name => ?_
  rw [Std.ExtTreeMap.mem_keys, h.guessed]

end Equate.Problem

namespace Equate.Solver
open Success

/-! ## Calls -/

section
variable {limits : Limits} {p : Problem} (solve : Request → Reply)

theorem call_of_not_valid (h : ¬limits.Valid) :
    ∃ reason, call solve limits p = refused (.configuration reason) := by
  obtain ⟨reason, hcheck⟩ := Limits.exists_of_not_valid h
  exact ⟨reason, by rw [call, hcheck]⟩

theorem call_of_empty (h : limits.Valid) (hempty : p.equations = []) :
    call solve limits p = refused (.solver "no equations to solve") := by
  rw [call, Limits.check_eq_ok.mpr h]
  exact if_pos (List.isEmpty_iff.mpr hempty)

theorem call_of_ne_nil (h : limits.Valid) (hne : p.equations ≠ []) :
    call solve limits p =
      match solve (.ofProblem p limits) with
      | .error text => ⟨[.ofProblem p limits], [], .error (.solver text)⟩
      | .ok solution =>
        ⟨[.ofProblem p limits],
          outsideBounds p.bounds solution ++ shadowing p.parameterValues solution,
          .ok (overlay p.parameterValues solution)⟩ := by
  rw [call, Limits.check_eq_ok.mpr h]
  exact if_neg (mt List.isEmpty_iff.mp hne)

theorem requests_call (h : limits.Valid) (hne : p.equations ≠ []) :
    (call solve limits p).requests = [.ofProblem p limits] := by
  rw [call_of_ne_nil solve h hne]
  split <;> rfl

/-- A solver takes part in the outcome by its answers to the requests that it sees. -/
theorem call_congr {solve' : Request → Reply}
    (h : ∀ request ∈ (call solve limits p).requests, solve' request = solve request) :
    call solve' limits p = call solve limits p := by
  by_cases hvalid : limits.Valid
  · by_cases hempty : p.equations = []
    · rw [call_of_empty solve' hvalid hempty, call_of_empty solve hvalid hempty]
    · rw [requests_call solve hvalid hempty] at h
      rw [call_of_ne_nil solve' hvalid hempty, call_of_ne_nil solve hvalid hempty,
        h _ List.mem_cons_self]
  · obtain ⟨reason, hcheck⟩ := Limits.exists_of_not_valid hvalid
    rw [call, call, hcheck]

end

/-! ## Systems of sources -/

/-- What a solver sees of a system: its equations, a guess for each unknown and no other, and
each bound as a list of its two ends. -/
structure Request.Shows (request : Request) (p : Problem) (limits : Limits) : Prop where
  equations : request.equations = p.equations
  guesses : request.guesses = p.guesses
  guessed : request.guesses.keys.Perm p.unknowns
  bounds : request.bounds = p.bounds
  written : request.toJson = Json.ofFields
    [("equations", Json.ofList Json.ofText p.equations),
      ("guesses", Json.ofMap Json.ofFloat p.guesses),
      ("bounds", Json.ofMap (fun b => .array [Json.ofFloat b.low, Json.ofFloat b.high]) p.bounds),
      ("tolerance", Json.ofFloat limits.tolerance),
      ("iteration_limit", Json.ofNat limits.iterations)]

theorem shows_ofProblem {p : Problem} (h : p.WellFormed) (limits : Limits) :
    (Request.ofProblem p limits).Shows p limits where
  equations := rfl
  guesses := rfl
  guessed := h.keys_guesses_perm
  bounds := rfl
  written := rfl

/-- The values of a solution and of the parameters side by side. -/
structure Merged (p : Problem) (solution values : NameMap Float) : Prop where
  solved : ∀ name ∈ solution, values[name]? = solution[name]?
  recorded : ∀ q ∈ p.parameters, values[q.name]? = some q.value
  only : ∀ name ∈ values, name ∈ solution ∨ name ∈ p.parameters.map Parameter.name
  apart : ∀ name ∈ solution, name ∉ p.parameters.map Parameter.name

section
variable {p : Problem} {solution : NameMap Float} (h : p.WellFormed)
  (hsolution : ∀ name ∈ solution, name ∈ p.unknowns)
include h hsolution

theorem merged_overlay : Merged p solution (overlay p.parameterValues solution) where
  solved name hname := by
    obtain ⟨value, hvalue⟩ := NameMap.mem_iff_exists.mp hname
    rw [getElem?_overlay, hvalue, Option.some_or]
  recorded q hq := by
    have hnone : solution[q.name]? = none := Std.ExtTreeMap.getElem?_eq_none fun hname =>
      h.disjoint q.name (hsolution q.name hname) (List.mem_map_of_mem hq)
    rw [getElem?_overlay, hnone, Option.none_or, h.getElem?_parameterValues]
    exact ⟨q, hq, rfl, rfl⟩
  only name hname := by
    obtain ⟨value, hvalue⟩ := NameMap.mem_iff_exists.mp hname
    rw [getElem?_overlay, Option.or_eq_some_iff] at hvalue
    rcases hvalue with hvalue | ⟨-, hvalue⟩
    · exact .inl (NameMap.mem_iff_exists.mpr ⟨value, hvalue⟩)
    · obtain ⟨q, hq, rfl, -⟩ := h.getElem?_parameterValues.mp hvalue
      exact .inr (List.mem_map_of_mem hq)
  apart name hname := h.disjoint name (hsolution name hname)

theorem shadowing_parameterValues_eq_nil : shadowing p.parameterValues solution = [] :=
  shadowing_eq_nil fun name hname => h.getElem?_parameterValues_eq_none (hsolution name hname)

end

/-- What comes of the system of a source. Limits that are not valid are reported before the
lack of equations, and neither lets the solver be asked; otherwise it is asked once, and what
it says decides. -/
theorem call_ofSource {units : Unit.Table} {source : Text} {p : Problem}
    {warnings : List Warning} (h : Problem.ofSource units source = .ok (p, warnings))
    (solve : Request → Reply) (limits : Limits) :
    (¬limits.Valid → ∃ reason, call solve limits p = refused (.configuration reason)) ∧
    (limits.Valid → p.equations = [] →
      call solve limits p = refused (.solver "no equations to solve")) ∧
    (limits.Valid → p.equations ≠ [] → ∃ request, request.Shows p limits ∧
      (call solve limits p).requests = [request] ∧
      (∀ text, solve request = .error text →
        (call solve limits p).result = .error (.solver text)) ∧
      ∀ solution, solve request = .ok solution → (∀ name ∈ solution, name ∈ p.unknowns) →
        (∃ values, (call solve limits p).result = .ok values ∧ Merged p solution values) ∧
        ∀ name previous solved, .shadowed name previous solved ∉ (call solve limits p).warnings) ∧
    ∀ solve', (∀ request ∈ (call solve limits p).requests, solve' request = solve request) →
      call solve' limits p = call solve limits p := by
  have hformed := Problem.wellFormed_ofSource h
  refine ⟨call_of_not_valid solve, call_of_empty solve, fun hvalid hne => ?_,
    fun solve' => call_congr solve⟩
  refine ⟨_, shows_ofProblem hformed limits, requests_call solve hvalid hne, ?_, ?_⟩
  · intro text htext
    rw [call_of_ne_nil solve hvalid hne, htext]
  · intro solution hsolve hsolution
    rw [call_of_ne_nil solve hvalid hne, hsolve]
    refine ⟨⟨_, rfl, merged_overlay hformed hsolution⟩, fun name previous solved => ?_⟩
    show _ ∉ outsideBounds p.bounds solution ++ shadowing p.parameterValues solution
    rw [shadowing_parameterValues_eq_nil hformed hsolution, List.append_nil]
    exact shadowed_not_mem_outsideBounds

/-- For instance a solution of a fall, reported with the parameter that it depends on. -/
theorem call_ofSource_fall :
    ∃ p warnings values, Problem.ofSource ⟨[]⟩ "g: 9.8\nkeep t on [0, 5]\ng * t = u" = .ok (p, warnings) ∧
      (call (fun _ => .ok (.ofEntries [("t", 1), ("u", 9.8)])) .default p).result = .ok values ∧
      values[("u" : Text)]? = some 9.8 ∧ values[("g" : Text)]? = some 9.8 ∧
      values[("h" : Text)]? = none := by
  obtain ⟨p, warnings, h, hunknowns, hequations, hparameters⟩ : ∃ p warnings,
      Problem.ofSource ⟨[]⟩ "g: 9.8\nkeep t on [0, 5]\ng * t = u" = .ok (p, warnings) ∧
        p.unknowns = ["t", "u"] ∧ p.equations ≠ [] ∧ p.parameters = [⟨"g", 9.8, "9.8", 1⟩] :=
    ⟨_, _, Problem.ofSource_fall, by decide +kernel, List.cons_ne_nil _ _, rfl⟩
  have hvalid : Limits.default.Valid := ⟨by decide +kernel, by decide +kernel, by decide⟩
  have hsolution : ∀ {name : Text} {value : Float},
      (NameMap.ofEntries [(("t" : Text), (1 : Float)), ("u", 9.8)])[name]? = some value ↔
        (name, value) ∈ [(("t" : Text), (1 : Float)), ("u", 9.8)] :=
    NameMap.getElem?_ofEntries (by decide)
  obtain ⟨-, -, hanswer, -⟩ :=
    call_ofSource h (fun _ => .ok (.ofEntries [("t", 1), ("u", 9.8)])) .default
  obtain ⟨request, -, -, -, hsolved⟩ := hanswer hvalid hequations
  obtain ⟨⟨values, hresult, hmerged⟩, -⟩ := hsolved _ rfl fun name hname => by
    obtain ⟨value, hvalue⟩ := NameMap.mem_iff_exists.mp hname
    rw [hunknowns]
    exact List.mem_map_of_mem (f := Prod.fst) (hsolution.mp hvalue)
  have hu : (NameMap.ofEntries [(("t" : Text), (1 : Float)), ("u", 9.8)])[("u" : Text)]? = some 9.8 :=
    hsolution.mpr (by simp)
  refine ⟨p, warnings, values, h, hresult, ?_, ?_, ?_⟩
  · rw [hmerged.solved _ (NameMap.mem_iff_exists.mpr ⟨_, hu⟩), hu]
  · exact hmerged.recorded ⟨"g", 9.8, "9.8", 1⟩ (by rw [hparameters]; exact List.mem_cons_self)
  · have hother : ("h" : Text) ∉ [(("t" : Text), (1 : Float)), ("u", 9.8)].map Prod.fst := by decide
    refine Std.ExtTreeMap.getElem?_eq_none fun hname => ?_
    rcases hmerged.only _ hname with hname | hname
    · obtain ⟨value, hvalue⟩ := NameMap.mem_iff_exists.mp hname
      exact hother (List.mem_map_of_mem (f := Prod.fst) (hsolution.mp hvalue))
    · rw [hparameters] at hname
      exact absurd hname (by decide)

end Equate.Solver
