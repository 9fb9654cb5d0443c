import Equate.Proofs.Number.Overflow
import Equate.Proofs.Problem.WellFormed
import Equate.Proofs.Name.Map
import Equate.Proofs.Solver.Request

/-!
# Finite numbers for a solver

Parameters are finite since evaluation refuses everything else. Guesses and bounds are the
numbers of literals, and no limit is set to these: a literal that is too large becomes an
infinity, which a request can only carry as a null. Which literal counts for a name is read
from the lines, so it can be said of a source whether this happens.
-/
namespace Equate
open Text Success

/-! ## Literals -/

namespace Directive

/-- The literal of the guess for a name; of several guesses the last counts. -/
def guessLiteral? (ls : List Text) (name : Text) : Option Text :=
  ((((ls.filter fun line => kind? line == some .guess).filterMap guessParts?).map Prod.swap).reverse).lookup
    name

/-- The literals of the two ends of the bound of a name; of several bounds the last counts. -/
def keepLiterals? (ls : List Text) (name : Text) : Option (Text × Text) :=
  ((ls.filter fun line => kind? line == some .keep).filterMap keepParts?).reverse.lookup name

/-- The bound between the numbers of two literals. -/
def literalBound? (ends : Text × Text) : Option Bound := do
  return ⟨← Number.readSigned? ends.1, ← Number.readSigned? ends.2⟩

end Directive

namespace Problem

/-- All numbers of a system are finite. -/
structure Finite (p : Problem) : Prop where
  guesses : ∀ (name : Text) x, p.guesses[name]? = some x → x.isFinite = true
  bounds : ∀ (name : Text) b, p.bounds[name]? = some b → b.low.isFinite = true ∧ b.high.isFinite = true
  parameters : ∀ q ∈ p.parameters, q.value.isFinite = true

theorem filterMap_filter_zipIdx {α : Type} (ls : List Text) (g : Text → Text) (p : Text → Bool)
    (f : Text → Option α) :
    ((ls.zipIdx 1).filter fun x => p (g x.1)).filterMap (fun x => f (g x.1)) =
      ((ls.map g).filter p).filterMap f := by
  rw [List.filterMap_filter, List.filterMap_filter, List.filterMap_map]
  exact filterMap_zipIdx ((fun line => if p line then f line else none) ∘ g) ls 1

section
variable {ls : List Text} {s : Scope} {r : Readings} (h : Compiles ls s r) (name : Text)
include h

/-- The guess that is kept for a name is read from the literal that counts. -/
theorem Compiles.getElem?_guesses :
    (NameMap.ofEntries (r.guesses.map fun g => (g.name, g.value)))[name]?.map some =
      (Directive.guessLiteral? (ls.map (rewritten s)) name).map Number.readSigned? := by
  apply NameMap.getElem?_ofEntries_read
  have hread := map_eq_filterMap_of_mapM (fun g : Directive.Guess => (g.name, some g.value))
    (fun x => (Directive.guessParts? (rewritten s x.1)).map fun parts =>
      (parts.2, Number.readSigned? parts.1)) (fun x g hg => ?_) h.read.guesses
  · rw [List.map_map, List.map_map]
    refine hread.trans ?_
    rw [List.map_filterMap, ← filterMap_filter_zipIdx]
    rfl
  · obtain ⟨number, name, value, hparts, hvalue, rfl⟩ := Directive.readGuess_eq_ok.mp hg
    rw [hparts, Option.map_some, hvalue]

/-- The bound that is kept for a name is read from the literals that count. -/
theorem Compiles.getElem?_keeps :
    (NameMap.ofEntries (r.keeps.map fun k => (k.name, k.bound)))[name]?.map some =
      (Directive.keepLiterals? (ls.map (rewritten s)) name).map Directive.literalBound? := by
  apply NameMap.getElem?_ofEntries_read
  have hread := map_eq_filterMap_of_mapM (fun k : Directive.Keep => (k.name, some k.bound))
    (fun x => (Directive.keepParts? (rewritten s x.1)).map fun parts =>
      (parts.1, Directive.literalBound? parts.2)) (fun x k hk => ?_) h.read.keeps
  · rw [List.map_map]
    refine hread.trans ?_
    rw [List.map_filterMap, ← filterMap_filter_zipIdx]
  · obtain ⟨name, lowText, highText, low, high, hparts, hlow, hhigh, -, rfl⟩ :=
      Directive.readKeep_eq_ok.mp hk
    rw [hparts, Option.map_some, Directive.literalBound?, hlow, hhigh]
    rfl

end

theorem literalBound?_eq_some {ends : Text × Text} {b : Bound} :
    Directive.literalBound? ends = some b ↔
      Number.readSigned? ends.1 = some b.low ∧ Number.readSigned? ends.2 = some b.high := by
  obtain ⟨low, high⟩ := b
  unfold Directive.literalBound?
  cases Number.readSigned? ends.1 <;> cases Number.readSigned? ends.2 <;> simp

/-! ## Systems of sources -/

theorem WellFormed.mem_unknowns_of_guess {p : Problem} (h : p.WellFormed) {name : Text} {x : Float}
    (hx : p.guesses[name]? = some x) : name ∈ p.unknowns := by
  apply (h.guessed name).mp
  rw [Std.ExtTreeMap.mem_iff_isSome_getElem?, hx]
  rfl

/-- The literals that count for an unknown are not too large. -/
structure InRange (ls : List Text) (name : Text) : Prop where
  guess : ∀ literal, Directive.guessLiteral? ls name = some literal → ¬ Number.Overflows literal
  bound : ∀ low high, Directive.keepLiterals? ls name = some (low, high) →
    ¬ Number.Overflows low ∧ ¬ Number.Overflows high

section
variable {ls : List Text} {s : Scope} {r : Readings} (h : Compiles ls s r) {name : Text}
include h

theorem Compiles.guess_cases (hname : name ∈ (r.collect s).1.unknowns) :
    (Directive.guessLiteral? (ls.map (rewritten s)) name = none ∧
      (r.collect s).1.guesses[name]? = some defaultGuess) ∨
    ∃ literal x, Directive.guessLiteral? (ls.map (rewritten s)) name = some literal ∧
      Number.readSigned? literal = some x ∧ (r.collect s).1.guesses[name]? = some x := by
  have hread := h.getElem?_guesses name
  have hguess := getElem?_guesses_collect hname
  unfold Readings.collect
  cases hliteral : Directive.guessLiteral? (ls.map (rewritten s)) name with
  | none =>
    rw [hliteral, Option.map_none, Option.map_eq_none_iff] at hread
    rw [hread] at hguess
    exact .inl ⟨rfl, hguess⟩
  | some literal =>
    rw [hliteral, Option.map_some] at hread
    obtain ⟨x, hx, hvalue⟩ := Option.map_eq_some_iff.mp hread
    rw [hx] at hguess
    exact .inr ⟨literal, x, rfl, hvalue.symm, hguess⟩

theorem Compiles.bound_cases (hname : name ∈ (r.collect s).1.unknowns) :
    (Directive.keepLiterals? (ls.map (rewritten s)) name = none ∧
      (r.collect s).1.bounds[name]? = none) ∨
    ∃ low high b, Directive.keepLiterals? (ls.map (rewritten s)) name = some (low, high) ∧
      Number.readSigned? low = some b.low ∧ Number.readSigned? high = some b.high ∧
        (r.collect s).1.bounds[name]? = some b := by
  have hread := h.getElem?_keeps name
  have hbound := getElem?_bounds_collect_of_mem hname
  unfold Readings.collect
  cases hliterals : Directive.keepLiterals? (ls.map (rewritten s)) name with
  | none =>
    rw [hliterals, Option.map_none, Option.map_eq_none_iff] at hread
    exact .inl ⟨rfl, hbound.trans hread⟩
  | some literals =>
    obtain ⟨low, high⟩ := literals
    rw [hliterals, Option.map_some] at hread
    obtain ⟨b, hb, hvalue⟩ := Option.map_eq_some_iff.mp hread
    obtain ⟨hlow, hhigh⟩ := literalBound?_eq_some.mp hvalue.symm
    exact .inr ⟨low, high, b, rfl, hlow, hhigh, hbound.trans hb⟩

theorem Compiles.finite_iff :
    (r.collect s).1.Finite ↔
      ∀ name ∈ (r.collect s).1.unknowns, InRange (ls.map (rewritten s)) name := by
  have hwell := h.wellFormed
  constructor
  · intro hfinite name hname
    constructor
    case guess =>
      intro literal hliteral
      rcases h.guess_cases hname with ⟨hnone, -⟩ | ⟨_, x, hsome, hread, hx⟩
      · cases hnone.symm.trans hliteral
      · cases hsome.symm.trans hliteral
        exact (Number.isFinite_readSigned?_iff hread).mp (hfinite.guesses name x hx)
    case bound =>
      intro low high hliterals
      rcases h.bound_cases hname with ⟨hnone, -⟩ | ⟨_, _, b, hsome, hlow, hhigh, hb⟩
      · cases hnone.symm.trans hliterals
      · cases hsome.symm.trans hliterals
        obtain ⟨hlowFinite, hhighFinite⟩ := hfinite.bounds name b hb
        exact ⟨(Number.isFinite_readSigned?_iff hlow).mp hlowFinite,
          (Number.isFinite_readSigned?_iff hhigh).mp hhighFinite⟩
  · intro hrange
    constructor
    case guesses =>
      intro name x hx
      have hname := hwell.mem_unknowns_of_guess hx
      rcases h.guess_cases hname with ⟨-, hdefault⟩ | ⟨literal, y, hliteral, hread, hy⟩
      · cases hdefault.symm.trans hx
        decide +kernel
      · cases hy.symm.trans hx
        exact (Number.isFinite_readSigned?_iff hread).mpr ((hrange name hname).guess literal hliteral)
    case bounds =>
      intro name b hb
      have hname := (hwell.bounded name b hb).1
      rcases h.bound_cases hname with ⟨-, hnone⟩ | ⟨low, high, b', hliterals, hlow, hhigh, hb'⟩
      · cases hnone.symm.trans hb
      · cases hb'.symm.trans hb
        obtain ⟨hlowRange, hhighRange⟩ := (hrange name hname).bound low high hliterals
        exact ⟨(Number.isFinite_readSigned?_iff hlow).mpr hlowRange,
          (Number.isFinite_readSigned?_iff hhigh).mpr hhighRange⟩
    case parameters => exact h.valid.finite

end

/-- The parameters of a system are finite, and its guesses and bounds are finite exactly if
none of the literals that count for its unknowns is too large. Then, and only then, no
request for the system has a null. -/
theorem finite_ofSource_iff {units : Unit.Table} {source : Text} {p : Problem}
    {warnings : List Warning} (h : ofSource units source = .ok (p, warnings)) :
    ∃ text s, Conversion.resolve units.conversion source = .ok text ∧
      Scope.ofDefinitions (Scope.definitions text) = .ok s ∧ p.parameters = s.parameters ∧
      (∀ q ∈ p.parameters, q.value.isFinite = true) ∧
      (∀ (name : Text) x, p.guesses[name]? = some x → x.isNaN = false) ∧
      (∀ (name : Text) b, p.bounds[name]? = some b → b.low.isNaN = false ∧ b.high.isNaN = false) ∧
      (p.Finite ↔ ∀ name ∈ p.unknowns, InRange ((lines text).map (rewritten s)) name) ∧
      ∀ limits, limits.check = .ok () →
        ((Solver.Request.ofProblem p limits).toJson.hasNull = false ↔ p.Finite) := by
  obtain ⟨text, s, r, htext, hcompiles, heq⟩ := ofSource_eq_ok.mp h
  obtain rfl : p = (r.collect s).1 := congrArg Prod.fst heq
  have hwell := hcompiles.wellFormed
  refine ⟨text, s, htext, hcompiles.scope, rfl, hcompiles.valid.finite, fun name x hx => ?_,
    fun name b hb => ?_, hcompiles.finite_iff, fun limits hlimits => ?_⟩
  · rcases hcompiles.guess_cases (hwell.mem_unknowns_of_guess hx) with
      ⟨-, hdefault⟩ | ⟨_, y, -, hread, hy⟩
    · cases hdefault.symm.trans hx
      decide +kernel
    · cases hy.symm.trans hx
      exact Number.isNaN_readSigned? hread
  · rcases hcompiles.bound_cases (hwell.bounded name b hb).1 with
      ⟨-, hnone⟩ | ⟨_, _, b', -, hlow, hhigh, hb'⟩
    · cases hnone.symm.trans hb
    · cases hb'.symm.trans hb
      exact ⟨Number.isNaN_readSigned? hlow, Number.isNaN_readSigned? hhigh⟩
  · rw [Solver.Request.hasNull_toJson_iff]
    exact ⟨fun hfinite => ⟨hfinite.guesses, hfinite.bounds, hcompiles.valid.finite⟩,
      fun hfinite => ⟨hfinite.guesses, hfinite.bounds, Solver.Limits.isFinite_of_check hlimits⟩⟩

/-- For instance with a guess of the size of the largest numbers. -/
theorem finite_ofSource_large :
    ∃ p warnings, ofSource ⟨[]⟩ "guess 1e308 for x\nkeep x on [0, 5]\nx = 1" = .ok (p, warnings) ∧
      p.Finite ∧ (Solver.Request.ofProblem p .default).toJson.hasNull = false := by
  have htags : (Conversion.resolve (Unit.Table.mk []).conversion
      "guess 1e308 for x\nkeep x on [0, 5]\nx = 1").toOption =
        some "guess 1e308 for x\nkeep x on [0, 5]\nx = 1" := by
    decide +kernel
  have h := ofSource_of_toOption (s := Scope.empty) "guess 1e308 for x\nkeep x on [0, 5]\nx = 1"
    ⟨[⟨1, "x", 1e308⟩], [⟨2, "x", ⟨0, 5⟩⟩], ["x = 1"]⟩ htags rfl
    (by decide +kernel) (by decide +kernel) (by decide +kernel) (by decide +kernel)
  have hunknowns : (Readings.collect ⟨[⟨1, "x", 1e308⟩], [⟨2, "x", ⟨0, 5⟩⟩], ["x = 1"]⟩
      Scope.empty).1.unknowns = [("x" : Text)] := by
    decide +kernel
  have hguess : Directive.guessLiteral? ((lines "guess 1e308 for x\nkeep x on [0, 5]\nx = 1").map
      (rewritten Scope.empty)) "x" = some ("1e308" : Text) := by
    decide +kernel
  have hkeep : Directive.keepLiterals? ((lines "guess 1e308 for x\nkeep x on [0, 5]\nx = 1").map
      (rewritten Scope.empty)) "x" = some (("0" : Text), ("5" : Text)) := by
    decide +kernel
  obtain ⟨text, s, htext, hs, -, -, -, -, hfinite, hrequest⟩ := finite_ofSource_iff h
  cases htext.symm.trans (eq_ok_of_toOption htags)
  cases hs.symm.trans (rfl : Scope.ofDefinitions [] = .ok Scope.empty)
  refine ⟨_, _, h, ?_⟩
  rw [hrequest .default rfl, and_self, hfinite]
  intro name hname
  obtain rfl : name = "x" := by
    rw [← List.mem_singleton, ← hunknowns]
    exact hname
  constructor
  case guess =>
    intro literal hliteral
    cases hguess.symm.trans hliteral
    decide +kernel
  case bound =>
    intro low high hliterals
    cases hkeep.symm.trans hliterals
    decide +kernel

/-- A guess that is too large reaches the solver as a null. -/
theorem not_finite_ofSource_overflow :
    ∃ p warnings, ofSource ⟨[]⟩ "guess 1e999 for x\nx = 1" = .ok (p, warnings) ∧
      p.guesses.toList = [(("x" : Text), Float.ofBits Number.infinityCode.toUInt64)] ∧ ¬ p.Finite ∧
      (Solver.Request.ofProblem p .default).toJson.hasNull = true := by
  have htags : (Conversion.resolve (Unit.Table.mk []).conversion "guess 1e999 for x\nx = 1").toOption =
      some "guess 1e999 for x\nx = 1" := by
    decide +kernel
  have h := ofSource_of_toOption (s := Scope.empty) "guess 1e999 for x\nx = 1"
    ⟨[⟨1, "x", Float.ofBits Number.infinityCode.toUInt64⟩], [], ["x = 1"]⟩ htags rfl
    (by decide +kernel) (by decide +kernel) (by decide +kernel) (by decide +kernel)
  have hguesses : (Readings.collect ⟨[⟨1, "x", Float.ofBits Number.infinityCode.toUInt64⟩], [],
      ["x = 1"]⟩ Scope.empty).1.guesses.toList =
        [(("x" : Text), Float.ofBits Number.infinityCode.toUInt64)] := by
    decide +kernel
  have hmem := List.mem_singleton_self (("x" : Text), Float.ofBits Number.infinityCode.toUInt64)
  rw [← hguesses, Std.ExtTreeMap.mem_toList_iff_getElem?_eq_some] at hmem
  refine ⟨_, _, h, hguesses, fun hfinite => ?_, by decide +kernel⟩
  have hinfinite := hfinite.guesses _ _ hmem
  rw [Number.not_isFinite_infinity] at hinfinite
  cases hinfinite

end Problem
end Equate
