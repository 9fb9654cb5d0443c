import Equate.Problem.Document
import Equate.Proofs.Json.Range
import Equate.Proofs.Json.Record
import Equate.Proofs.Problem.Finite

/-!
# Systems read from their documents

The document of a finite system can be read, and gives the system again but for its numbers,
which are what the reader makes of their digits. Names, equations and expressions come back
whatever characters they have. Numbers with few digits come back too, and others may or may
not.
-/
namespace Equate
open Text Success

/-! ## Numbers -/

namespace Json

/-- What is read from the written form of a number. -/
def reread? (x : Float) : Option Float := toFloat? (ofFloat x)

/-- A number written with a mantissa and a power of ten that need no rounding. -/
def IsShort (x : Float) : Prop := Numeral.Short (Numeral.ofFinite x).decimal

instance (x : Float) : Decidable (IsShort x) :=
  inferInstanceAs (Decidable (Numeral.Short (Numeral.ofFinite x).decimal))

theorem reread?_eq {x : Float} (h : x.isFinite = true) : reread? x = (Numeral.ofFinite x).toFloat? := by
  rw [reread?, ofFloat, if_pos ((Number.isFinite_iff x).mp h), toFloat?]

theorem exists_reread? {x : Float} (h : x.isFinite = true) : ∃ y, reread? x = some y := by
  rw [reread?_eq h]
  exact Numeral.exists_toFloat?_ofFinite h

theorem reread?_of_isShort {x : Float} (h : x.isFinite = true) (hshort : IsShort x) :
    reread? x = some x := by
  rw [reread?_eq h]
  exact Numeral.toFloat?_ofFinite_of_short h hshort

end Json

/-! ## Bounds and parameters -/

namespace Bound

/-- A bound with its ends read again. -/
def reread? (b : Bound) : Option Bound := do
  return ⟨← Json.reread? b.low, ← Json.reread? b.high⟩

theorem wellFormed_toJson (b : Bound) : b.toJson.WellFormed := by
  apply Json.wellFormed_ofFields
  simp [Json.wellFormed_ofFloat]

theorem ofJson?_toJson (b : Bound) : ofJson? b.toJson = b.reread? := by
  have hfields : Json.fields? ["low", "high"] false b.toJson =
      some [(("low" : Text), Json.ofFloat b.low), (("high" : Text), Json.ofFloat b.high)] :=
    Json.fields?_ofFields false (by decide) rfl
  rw [ofJson?, hfields]
  rfl

theorem exists_reread? {b : Bound} (hlow : b.low.isFinite = true) (hhigh : b.high.isFinite = true) :
    ∃ b', b.reread? = some b' := by
  obtain ⟨low, hlow⟩ := Json.exists_reread? hlow
  obtain ⟨high, hhigh⟩ := Json.exists_reread? hhigh
  exact ⟨⟨low, high⟩, by rw [reread?, hlow, hhigh]; rfl⟩

theorem reread?_eq_some_self {b : Bound} :
    b.reread? = some b ↔ Json.reread? b.low = some b.low ∧ Json.reread? b.high = some b.high := by
  obtain ⟨low, high⟩ := b
  unfold reread?
  dsimp only
  cases Json.reread? low <;> cases Json.reread? high <;> simp

end Bound

namespace Parameter

/-- A parameter with its value read again, if its line number can be read. -/
def reread? (q : Parameter) : Option Parameter :=
  if q.line ≤ lineLimit then (Json.reread? q.value).map fun value => { q with value } else none

theorem wellFormed_toJson (q : Parameter) : q.toJson.WellFormed := by
  apply Json.wellFormed_ofFields
  simp [Json.wellFormed_ofText, Json.wellFormed_ofFloat, Json.wellFormed_ofNat]

theorem ofJson?_toJson (q : Parameter) : ofJson? q.toJson = q.reread? := by
  have hfields : Json.fields? ["name", "value", "expression", "line"] false q.toJson =
      some [(("name" : Text), Json.ofText q.name), (("value" : Text), Json.ofFloat q.value),
        (("expression" : Text), Json.ofText q.expression), (("line" : Text), Json.ofNat q.line)] :=
    Json.fields?_ofFields false (by decide) rfl
  have hread : ofJson? q.toJson = (do
      let name ← Json.toText? (Json.ofText q.name)
      let value ← Json.reread? q.value
      let expression ← Json.toText? (Json.ofText q.expression)
      let line ← Json.toNat? lineLimit (Json.ofNat q.line)
      return { name, value, expression, line }) := by
    rw [ofJson?, hfields]
    rfl
  rw [hread, Json.toText?_ofText, Json.toText?_ofText, Json.toNat?_ofNat, reread?]
  split <;> cases Json.reread? q.value <;> rfl

theorem exists_reread? {q : Parameter} (hline : q.line ≤ lineLimit) (hvalue : q.value.isFinite = true) :
    ∃ q', q.reread? = some q' := by
  obtain ⟨value, hvalue⟩ := Json.exists_reread? hvalue
  exact ⟨{ q with value }, by rw [reread?, if_pos hline, hvalue, Option.map_some]⟩

theorem reread?_eq_some_self {q : Parameter} (hline : q.line ≤ lineLimit) :
    q.reread? = some q ↔ Json.reread? q.value = some q.value := by
  obtain ⟨name, value, expression, line⟩ := q
  rw [reread?, if_pos hline]
  dsimp only
  cases Json.reread? value <;> simp

end Parameter

/-! ## Systems -/

namespace Problem

/-- A system with its numbers read again. -/
def reread? (p : Problem) : Option Problem := do
  let guesses ← p.guesses.traverse? Json.reread?
  let bounds ← p.bounds.traverse? Bound.reread?
  let parameters ← p.parameters.mapM Parameter.reread?
  return { p with guesses, bounds, parameters }

theorem wellFormed_toJson (p : Problem) : p.toJson.WellFormed := by
  have htexts : ∀ ts : List Text, (Json.ofList Json.ofText ts).WellFormed :=
    fun ts => Json.wellFormed_ofList fun t _ => Json.wellFormed_ofText t
  have hguesses := Json.wellFormed_ofMap p.guesses Json.wellFormed_ofFloat
  have hbounds := Json.wellFormed_ofMap p.bounds Bound.wellFormed_toJson
  have hparameters : (Json.ofList Parameter.toJson p.parameters).WellFormed :=
    Json.wellFormed_ofList fun q _ => q.wellFormed_toJson
  apply Json.wellFormed_ofFields
  simp [htexts, hguesses, hbounds, hparameters]

theorem ofJson?_toJson (p : Problem) : ofJson? p.toJson = p.reread? := by
  have hfields : Json.fields? ["equations", "variables", "guesses", "bounds", "parameters"] false
      p.toJson = some [(("equations" : Text), Json.ofList Json.ofText p.equations),
        (("variables" : Text), Json.ofList Json.ofText p.unknowns),
        (("guesses" : Text), Json.ofMap Json.ofFloat p.guesses),
        (("bounds" : Text), Json.ofMap Bound.toJson p.bounds),
        (("parameters" : Text), Json.ofList Parameter.toJson p.parameters)] :=
    Json.fields?_ofFields false (by decide) rfl
  have hread : ofJson? p.toJson = (do
      let equations ← Json.toList? Json.toText? (Json.ofList Json.ofText p.equations)
      let unknowns ← Json.toList? Json.toText? (Json.ofList Json.ofText p.unknowns)
      let guesses ← Json.toMap? Json.toFloat? (Json.ofMap Json.ofFloat p.guesses)
      let bounds ← Json.toMap? Bound.ofJson? (Json.ofMap Bound.toJson p.bounds)
      let parameters ← Json.toList? Parameter.ofJson? (Json.ofList Parameter.toJson p.parameters)
      return { equations, unknowns, guesses, bounds, parameters }) := by
    rw [ofJson?, hfields]
    rfl
  rw [hread, Json.toList?_toText?, Json.toList?_toText?, Json.toMap?_ofMap, Json.toMap?_ofMap,
    Json.toList?_ofList]
  simp only [Bound.ofJson?_toJson, Parameter.ofJson?_toJson]
  rfl

/-- The text of a system is read as the system with its numbers read again. -/
theorem read?_compact (p : Problem) : read? (Json.compact p.toJson) = p.reread? := by
  rw [read?, p.wellFormed_toJson.parse?_compact, Option.bind_some, ofJson?_toJson]

/-- One system is the other, with what is read of its numbers in their place. -/
structure Rereads (p p' : Problem) : Prop where
  equations : p'.equations = p.equations
  unknowns : p'.unknowns = p.unknowns
  guesses : ∀ name : Text, p'.guesses[name]?.map some = p.guesses[name]?.map Json.reread?
  bounds : ∀ name : Text, p'.bounds[name]?.map some = p.bounds[name]?.map Bound.reread?
  parameters : p'.parameters.map some = p.parameters.map Parameter.reread?

theorem reread?_eq_some_iff {p p' : Problem} : p.reread? = some p' ↔ p.Rereads p' := by
  have hfields : p.reread? = some p' ↔ p.guesses.traverse? Json.reread? = some p'.guesses ∧
      p.bounds.traverse? Bound.reread? = some p'.bounds ∧
      p.parameters.mapM Parameter.reread? = some p'.parameters ∧
      p'.equations = p.equations ∧ p'.unknowns = p.unknowns := by
    obtain ⟨equations', unknowns', guesses', bounds', parameters'⟩ := p'
    simp only [reread?, Option.bind_eq_bind, Option.bind_eq_some_iff, Option.pure_def,
      Option.some.injEq, mk.injEq]
    constructor
    · rintro ⟨_, hguesses, _, hbounds, _, hparameters, rfl, rfl, rfl, rfl, rfl⟩
      exact ⟨hguesses, hbounds, hparameters, rfl, rfl⟩
    · rintro ⟨hguesses, hbounds, hparameters, rfl, rfl⟩
      exact ⟨_, hguesses, _, hbounds, _, hparameters, rfl, rfl, rfl, rfl, rfl⟩
  rw [hfields, NameMap.traverse?_eq_some_iff, NameMap.traverse?_eq_some_iff, mapM_eq_some_iff, eq_comm]
  exact ⟨fun ⟨hguesses, hbounds, hparameters, hequations, hunknowns⟩ =>
      ⟨hequations, hunknowns, hguesses, hbounds, hparameters⟩,
    fun h => ⟨h.guesses, h.bounds, h.parameters, h.equations, h.unknowns⟩⟩

/-- All numbers of a system have a property. -/
structure AllNumbers (P : Float → Prop) (p : Problem) : Prop where
  guesses : ∀ (name : Text) x, p.guesses[name]? = some x → P x
  bounds : ∀ (name : Text) b, p.bounds[name]? = some b → P b.low ∧ P b.high
  parameters : ∀ q ∈ p.parameters, P q.value

theorem allNumbers_iff {P : Float → Prop} {p : Problem} : p.AllNumbers P ↔
    (∀ e ∈ p.guesses.toList, P e.2) ∧ (∀ e ∈ p.bounds.toList, P e.2.low ∧ P e.2.high) ∧
      ∀ q ∈ p.parameters, P q.value := by
  simp only [Prod.forall, Std.ExtTreeMap.mem_toList_iff_getElem?_eq_some]
  exact ⟨fun h => ⟨h.guesses, h.bounds, h.parameters⟩, fun h => ⟨h.1, h.2.1, h.2.2⟩⟩

instance (P : Float → Prop) [DecidablePred P] (p : Problem) : Decidable (p.AllNumbers P) :=
  decidable_of_iff _ allNumbers_iff.symm

theorem finite_iff_allNumbers {p : Problem} : p.Finite ↔ p.AllNumbers fun x => x.isFinite = true :=
  ⟨fun h => ⟨h.guesses, h.bounds, h.parameters⟩, fun h => ⟨h.guesses, h.bounds, h.parameters⟩⟩

instance (p : Problem) : Decidable p.Finite := decidable_of_iff _ finite_iff_allNumbers.symm

section
variable {p : Problem} (hlines : ∀ q ∈ p.parameters, q.line ≤ Parameter.lineLimit)
include hlines

theorem exists_reread? (hfinite : p.Finite) : ∃ p', p.reread? = some p' := by
  obtain ⟨guesses, hguesses⟩ := NameMap.exists_traverse? fun name x hx =>
    Json.exists_reread? (hfinite.guesses name x hx)
  obtain ⟨bounds, hbounds⟩ := NameMap.exists_traverse? fun name b hb =>
    Bound.exists_reread? (hfinite.bounds name b hb).1 (hfinite.bounds name b hb).2
  obtain ⟨parameters, hparameters⟩ := exists_mapM_eq_some fun q hq =>
    Parameter.exists_reread? (hlines q hq) (hfinite.parameters q hq)
  exact ⟨{ p with guesses, bounds, parameters }, by
    rw [reread?, hguesses, hbounds, hparameters]
    rfl⟩

theorem rereads_self_iff : p.Rereads p ↔ p.AllNumbers fun x => Json.reread? x = some x := by
  have hguesses := NameMap.traverse?_eq_some_self (f := Json.reread?) (m := p.guesses)
  have hbounds := NameMap.traverse?_eq_some_self (f := Bound.reread?) (m := p.bounds)
  have hparameters : p.parameters.map some = p.parameters.map Parameter.reread? ↔
      ∀ q ∈ p.parameters, Json.reread? q.value = some q.value := by
    rw [List.map_inj_left]
    refine forall₂_congr fun q hq => ?_
    rw [eq_comm, Parameter.reread?_eq_some_self (hlines q hq)]
  rw [NameMap.traverse?_eq_some_iff] at hguesses hbounds
  simp only [Bound.reread?_eq_some_self] at hbounds
  constructor
  · intro h
    exact ⟨hguesses.mp h.guesses, hbounds.mp h.bounds, hparameters.mp h.parameters⟩
  · intro h
    exact ⟨rfl, rfl, hguesses.mpr h.guesses, hbounds.mpr h.bounds, hparameters.mpr h.parameters⟩

/-- Reading the text of a finite system succeeds and gives the system with its numbers read
again. This is the same system exactly if each of the numbers comes back, as all of those
do whose mantissa and power of ten need no rounding. -/
theorem read?_compact_toJson (hfinite : p.Finite) :
    ∃ p', read? (Json.compact p.toJson) = some p' ∧ p.Rereads p' ∧
      (p' = p ↔ p.AllNumbers fun x => Json.reread? x = some x) ∧
      (p.AllNumbers Json.IsShort → p' = p) := by
  obtain ⟨p', hp'⟩ := exists_reread? hlines hfinite
  have hrereads := reread?_eq_some_iff.mp hp'
  have hself : p' = p ↔ p.AllNumbers fun x => Json.reread? x = some x := by
    rw [← rereads_self_iff hlines, ← reread?_eq_some_iff, hp', Option.some.injEq]
  refine ⟨p', by rw [read?_compact, hp'], hrereads, hself, fun hshort => hself.mpr ?_⟩
  constructor
  case guesses =>
    exact fun name x hx =>
      Json.reread?_of_isShort (hfinite.guesses name x hx) (hshort.guesses name x hx)
  case bounds =>
    intro name b hb
    obtain ⟨hlow, hhigh⟩ := hfinite.bounds name b hb
    obtain ⟨hshortLow, hshortHigh⟩ := hshort.bounds name b hb
    exact ⟨Json.reread?_of_isShort hlow hshortLow, Json.reread?_of_isShort hhigh hshortHigh⟩
  case parameters =>
    exact fun q hq => Json.reread?_of_isShort (hfinite.parameters q hq) (hshort.parameters q hq)

end

/-- For instance a system with a parameter, a guess and a bound of a few digits. -/
theorem read?_compact_toJson_fall :
    ∃ p warnings, ofSource ⟨[]⟩ "g: 9.8\nguess 0.5 for t\nkeep t on [0, 5]\ng * t = 3" =
        .ok (p, warnings) ∧
      p.Finite ∧ p.AllNumbers Json.IsShort ∧ read? (Json.compact p.toJson) = some p := by
  have hscope : Scope.ofDefinitions [⟨1, "g: 9.8", "g", "9.8"⟩] =
      .ok (Scope.empty.push ⟨"g", 9.8, "9.8", 1⟩) :=
    Scope.ofDefinitions_num (by decide) (by decide +kernel) (eq_ok_of_toOption (by decide +kernel))
      (by decide +kernel)
  have htags : (Conversion.resolve (Unit.Table.mk []).conversion
      "g: 9.8\nguess 0.5 for t\nkeep t on [0, 5]\ng * t = 3").toOption =
        some "g: 9.8\nguess 0.5 for t\nkeep t on [0, 5]\ng * t = 3" := by
    decide +kernel
  have h := ofSource_of_toOption "g: 9.8\nguess 0.5 for t\nkeep t on [0, 5]\ng * t = 3"
    ⟨[⟨2, "t", 0.5⟩], [⟨3, "t", ⟨0, 5⟩⟩], ["(9.8) * t = 3"]⟩ htags hscope (by decide +kernel)
    (by decide +kernel) (by decide +kernel) (by decide +kernel)
  obtain ⟨⟨p, warnings⟩, hcollect⟩ : ∃ result, Readings.collect
      ⟨[⟨2, "t", 0.5⟩], [⟨3, "t", ⟨0, 5⟩⟩], ["(9.8) * t = 3"]⟩
      (Scope.empty.push ⟨"g", 9.8, "9.8", 1⟩) = result := ⟨_, rfl⟩
  have hp : (Readings.collect _ _).1 = p := congrArg Prod.fst hcollect
  rw [hcollect] at h
  have hlines : ∀ q ∈ p.parameters, q.line ≤ Parameter.lineLimit := by
    rw [← hp]
    decide +kernel
  have hfinite : p.Finite := by
    rw [← hp]
    decide +kernel
  have hshort : p.AllNumbers Json.IsShort := by
    rw [← hp]
    decide +kernel
  obtain ⟨p', hread, -, -, hsame⟩ := read?_compact_toJson hlines hfinite
  rw [hsame hshort] at hread
  exact ⟨p, warnings, h, hfinite, hshort, hread⟩

/-- A finite guess can come back as its neighbour. -/
theorem read?_compact_toJson_neighbour :
    ∃ p warnings, ofSource ⟨[]⟩ "guess 0.000011574074074074073 for x\nx = 1" =
        .ok (p, warnings) ∧
      p.Finite ∧ p.guesses.toList = [(("x" : Text), 0.000011574074074074073)] ∧
      (read? (Json.compact p.toJson)).map (fun p => p.guesses.toList) =
        some [(("x" : Text), 0.000011574074074074072)] ∧
      read? (Json.compact p.toJson) ≠ some p := by
  have htags : (Conversion.resolve (Unit.Table.mk []).conversion
      "guess 0.000011574074074074073 for x\nx = 1").toOption =
        some "guess 0.000011574074074074073 for x\nx = 1" := by
    decide +kernel
  have h := ofSource_of_toOption (s := Scope.empty)
    "guess 0.000011574074074074073 for x\nx = 1"
    ⟨[⟨1, "x", 0.000011574074074074073⟩], [], ["x = 1"]⟩ htags rfl
    (by decide +kernel) (by decide +kernel) (by decide +kernel) (by decide +kernel)
  obtain ⟨⟨p, warnings⟩, hcollect⟩ : ∃ result, Readings.collect
      ⟨[⟨1, "x", 0.000011574074074074073⟩], [], ["x = 1"]⟩ Scope.empty = result := ⟨_, rfl⟩
  have hp : (Readings.collect _ _).1 = p := congrArg Prod.fst hcollect
  rw [hcollect] at h
  have hfinite : p.Finite := by
    rw [← hp]
    decide +kernel
  have hguesses : p.guesses.toList = [(("x" : Text), 0.000011574074074074073)] := by
    rw [← hp]
    decide +kernel
  have hreread : p.reread?.map (fun p => p.guesses.toList) =
      some [(("x" : Text), 0.000011574074074074072)] := by
    rw [← hp]
    decide +kernel
  rw [← read?_compact] at hreread
  refine ⟨p, warnings, h, hfinite, hguesses, hreread, fun hsame => ?_⟩
  rw [hsame, Option.map_some, hguesses] at hreread
  exact absurd hreread (by decide +kernel)

end Problem
end Equate
