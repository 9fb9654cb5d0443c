import Equate.Proofs.Expr.Names
import Equate.Proofs.Parameter.Reachable

/-!
# What a scope records

A caller keeps one scope and carries out definition after definition on it, whether they
succeed or not. `attempt` is such a call with the two changes of the scope one after the
other, and `history` the scope after any run of calls. Its index gives the place of each
name, and every value is that of its expression in the scope of the parameters before it:
neither a definition that failed nor one that came later has any part in it.
-/
namespace Equate.Scope
open Success

/-! ## Parameters in a row -/

@[simp] theorem parameters_push (s : Scope) (p : Parameter) :
    (s.push p).parameters = s.parameters ++ [p] := rfl

/-- The scope of parameters in their order. -/
def ofParameters (ps : List Parameter) : Scope := ps.foldl push empty

theorem ofParameters_append (ps : List Parameter) (p : Parameter) :
    ofParameters (ps ++ [p]) = (ofParameters ps).push p :=
  List.foldl_append

/-- What holds of every scope that definitions lead to, the values included. -/
structure Recorded (s : Scope) : Prop extends Valid s where
  evaluated : ∀ before p after, s.parameters = before ++ p :: after →
    Expr.evaluate (ofParameters before).value? p.expression = .ok p.value

theorem Reachable.eq_ofParameters {s : Scope} (h : s.Reachable) : s = ofParameters s.parameters := by
  induction h with
  | empty => rfl
  | define _ hdefine ih =>
    obtain ⟨-, -, -, value, -, rfl⟩ := define_eq_ok.mp hdefine
    rw [push, ofParameters_append, ← ih, push]

theorem Reachable.recorded {s : Scope} (h : s.Reachable) : s.Recorded := by
  refine ⟨h.valid, ?_⟩
  induction h with
  | empty =>
    intro before p after heq
    exact absurd heq.symm (List.append_ne_nil_of_right_ne_nil _ (List.cons_ne_nil p after))
  | @define s s' d hs hdefine ih =>
    obtain ⟨-, -, -, value, hvalue, rfl⟩ := define_eq_ok.mp hdefine
    intro before p after heq
    -- The parameter is the new one, or it stands among those that were there.
    rcases List.eq_nil_or_concat after with rfl | ⟨after, last, rfl⟩
    · obtain ⟨rfl, hlast⟩ := List.append_inj' heq rfl
      cases hlast
      rw [← hs.eq_ofParameters]
      exact hvalue
    · rw [List.concat_eq_append, ← List.cons_append, ← List.append_assoc] at heq
      exact ih before p after (List.append_inj' heq rfl).1

/-- In the whole scope, too, each expression has the value that was recorded for it. -/
theorem Reachable.evaluate {s : Scope} (h : s.Reachable) {p : Parameter} (hp : p ∈ s.parameters) :
    Expr.evaluate s.value? p.expression = .ok p.value := by
  induction h with
  | empty => exact absurd hp List.not_mem_nil
  | @define s s' d hs hdefine ih =>
    have hextends : ∀ name x, s.value? name = some x → s'.value? name = some x := by
      intro name x hx
      obtain ⟨q, hq, hname⟩ := hs.valid.value?_eq_some.mp hx
      obtain ⟨-, -, -, value, -, rfl⟩ := define_eq_ok.mp hdefine
      exact (Reachable.define hs hdefine).valid.value?_eq_some.mpr ⟨q, List.mem_append_left _ hq, hname⟩
    obtain ⟨-, -, -, value, hvalue, rfl⟩ := define_eq_ok.mp hdefine
    rcases List.mem_append.mp hp with hp | hp
    · exact Expr.evaluate_of_extends (ih hp) hextends
    · rw [List.mem_singleton.mp hp]
      exact Expr.evaluate_of_extends hvalue hextends

/-! ## Calls that succeed or fail -/

/-- A definition carried out on a scope that is kept. A step that fails ends the call where
it stands; what has been changed by then stays changed. -/
def attempt (d : Definition) : ExceptT Fault (StateM Scope) Float := do
  let s ← get
  if !Name.isIdentifier d.name then
    throw (.parameter d.line d.text ("parameter name '" ++ d.name ++ "' is not an identifier"))
  if Name.isReserved d.name then
    throw (.nameConflict d.name
      ("line " ++ Text.decimal d.line ++ " defines a parameter with a reserved name"))
  if let some existing := s.parameter? d.name then
    throw (.nameConflict d.name
      ("line " ++ Text.decimal d.line ++ " redefines the parameter from line " ++
        Text.decimal existing.line))
  match Expr.evaluate s.value? d.expression with
  | .error e => throw (.parameter d.line d.text e.message)
  | .ok value =>
    modify fun s => { s with index := s.index.insert d.name s.parameters.length }
    modify fun s => { s with parameters := s.parameters ++ [⟨d.name, value, d.expression, d.line⟩] }
    return value

/-- The answer of a call, and the scope after it. -/
def call (s : Scope) (d : Definition) : Except Fault Float × Scope := (attempt d).run.run s

/-- The scope after calls from the empty one on. -/
def history (ds : List Definition) : Scope := ds.foldl (fun s d => (s.call d).2) empty

/-- A call fails as `define` does and then leaves the scope as it was. -/
theorem call_eq (s : Scope) (d : Definition) :
    s.call d = match s.define d with
      | .error fault => (.error fault, s)
      | .ok s' => ((Expr.evaluate s.value? d.expression).mapError fun e =>
          .parameter d.line d.text e.message, s') := by
  have hget : ∀ f : Scope → ExceptT Fault (StateM Scope) Float,
      (get >>= f).run.run s = (f s).run.run s := fun _ => rfl
  unfold call attempt define
  rw [hget]
  cases Name.isIdentifier d.name with
  | false => rfl
  | true =>
    cases Name.isReserved d.name with
    | true => rfl
    | false =>
      cases s.parameter? d.name with
      | some existing => rfl
      | none => cases Expr.evaluate s.value? d.expression <;> rfl

theorem call_eq_ok {s s' : Scope} {d : Definition} {value : Float} :
    s.call d = (.ok value, s') ↔ Name.isIdentifier d.name = true ∧ Name.isReserved d.name = false ∧
      s.parameter? d.name = none ∧ Expr.evaluate s.value? d.expression = .ok value ∧
      s' = s.push ⟨d.name, value, d.expression, d.line⟩ := by
  rw [call_eq]
  cases hdefine : s.define d with
  | error fault =>
    refine iff_of_false (fun h => nomatch congrArg Prod.fst h) ?_
    rintro ⟨hidentifier, hreserved, hnew, hvalue, -⟩
    have hok := define_eq_ok.mpr ⟨hidentifier, hreserved, hnew, value, hvalue, rfl⟩
    exact nomatch hdefine.symm.trans hok
  | ok t =>
    obtain ⟨hidentifier, hreserved, hnew, x, hx, rfl⟩ := define_eq_ok.mp hdefine
    rw [hx]
    show ((Except.ok x : Except Fault Float), s.push ⟨d.name, x, d.expression, d.line⟩) = _ ↔ _
    simp only [hidentifier, hreserved, hnew, true_and, Except.ok.injEq, Prod.mk.injEq]
    constructor
    · rintro ⟨rfl, rfl⟩
      exact ⟨rfl, rfl⟩
    · rintro ⟨rfl, rfl⟩
      exact ⟨rfl, rfl⟩

theorem call_of_error {s s' : Scope} {d : Definition} {fault : Fault}
    (h : s.call d = (.error fault, s')) : s' = s := by
  rw [call_eq] at h
  cases hdefine : s.define d with
  | error _ =>
    rw [hdefine] at h
    exact (congrArg Prod.snd h).symm
  | ok t =>
    obtain ⟨-, -, -, x, hx, -⟩ := define_eq_ok.mp hdefine
    rw [hdefine, hx] at h
    exact nomatch congrArg Prod.fst h

theorem Reachable.call {s : Scope} (h : s.Reachable) (d : Definition) : (s.call d).2.Reachable := by
  rw [call_eq]
  cases hdefine : s.define d with
  | error fault => exact h
  | ok s' => exact .define h hdefine

theorem reachable_history (ds : List Definition) : (history ds).Reachable := by
  have hrun : ∀ s : Scope, s.Reachable → (ds.foldl (fun s d => (s.call d).2) s).Reachable := by
    induction ds with
    | nil => exact fun s h => h
    | cons d ds ih => exact fun s h => ih _ (h.call d)
  exact hrun empty .empty

/-- Whatever has been called, the scope records what it should. The next call succeeds for a
new name that may be taken and an expression with a value, and adds one parameter behind the
others; otherwise it changes nothing. -/
theorem recorded_history (ds : List Definition) :
    (history ds).Recorded ∧ ∀ d : Definition,
      ((∃ value, ((history ds).call d).1 = .ok value) ↔
        Name.isIdentifier d.name = true ∧ Name.isReserved d.name = false ∧
          d.name ∉ (history ds).parameters.map Parameter.name ∧
          ∃ value, Expr.evaluate (history ds).value? d.expression = .ok value) ∧
      (∀ value, ((history ds).call d).1 = .ok value → ((history ds).call d).2.parameters =
        (history ds).parameters ++ [⟨d.name, value, d.expression, d.line⟩]) ∧
      ∀ fault, ((history ds).call d).1 = .error fault → ((history ds).call d).2 = history ds := by
  have hreach := reachable_history ds
  refine ⟨hreach.recorded, fun d => ⟨?_, fun value h => ?_, fun fault h => ?_⟩⟩
  · rw [← hreach.valid.parameter?_eq_none]
    constructor
    · rintro ⟨value, h⟩
      obtain ⟨hidentifier, hreserved, hnew, hvalue, -⟩ := call_eq_ok.mp (Prod.ext h rfl)
      exact ⟨hidentifier, hreserved, hnew, value, hvalue⟩
    · rintro ⟨hidentifier, hreserved, hnew, value, hvalue⟩
      exact ⟨value, congrArg Prod.fst
        (call_eq_ok.mpr ⟨hidentifier, hreserved, hnew, hvalue, rfl⟩)⟩
  · obtain ⟨-, -, -, -, hscope⟩ := call_eq_ok.mp (Prod.ext h rfl)
    exact congrArg Scope.parameters hscope
  · exact call_of_error (Prod.ext h rfl)

end Equate.Scope
