import Equate.Proofs.Parameter.History
import Equate.Proofs.Parameter.Redefinition
import Equate.Proofs.Problem.LineByLine

/-!
# Scopes built anew from their parameters

Each recorded expression has its value in the scope of the parameters in front of it, so a
scope can be built anew from what it has recorded. Parameters from elsewhere, with whatever
values, lead to a scope with their names, expressions and lines if they lead to one, and
that scope is built anew without a change.
-/
namespace Equate.Scope
open Success

/-- What has been recorded leads to the same scope again. -/
theorem Reachable.replay_parameters {s : Scope} (h : s.Reachable) :
    replay s.parameters = .ok s := by
  induction h with
  | empty => rfl
  | @define s s' d hs hdefine ih =>
    obtain ⟨hidentifier, hreserved, hnew, value, hvalue, rfl⟩ := define_eq_ok.mp hdefine
    rw [push, replay, List.map_append, List.map_singleton, ofDefinitions_append, ← replay, ih, ok_bind]
    exact define_eq_ok.mpr ⟨hidentifier, hreserved, hnew, value, hvalue, rfl⟩

theorem map_replay {ps : List Parameter} {s : Scope} (h : replay ps = .ok s) :
    s.parameters.map (fun p => (p.name, p.expression)) = ps.map (fun p => (p.name, p.expression)) ∧
      s.parameters.map Parameter.line = ps.map Parameter.line := by
  constructor
  · rw [map_ofDefinitions h, List.map_map]
    rfl
  · rw [map_line_ofDefinitions h, List.map_map]
    rfl

/-- The parameters of every scope that calls lead to, and so those of every source, lead to
the same scope again. Those of any other list that leads to a scope are kept as they are,
except for their values, which are those of the expressions from then on. -/
theorem replay_history :
    (∀ ds, replay (history ds).parameters = .ok (history ds)) ∧
    (∀ units source p warnings, Problem.ofSource units source = .ok (p, warnings) →
      ∃ text left s, Conversion.resolve units.conversion source = .ok text ∧
        extract text = .ok (left, s) ∧ p.parameters = s.parameters ∧
        replay p.parameters = .ok s) ∧
    ∀ ps s, replay ps = .ok s →
      s.parameters.map (fun p => (p.name, p.expression)) = ps.map (fun p => (p.name, p.expression)) ∧
        s.parameters.map Parameter.line = ps.map Parameter.line ∧
        replay s.parameters = .ok s := by
  refine ⟨fun ds => (reachable_history ds).replay_parameters, fun units source p warnings h => ?_,
    fun ps s h => ?_⟩
  · obtain ⟨text, s, r, htext, hcompiles, heq⟩ := Problem.ofSource_eq_ok.mp h
    cases heq
    exact ⟨text, _, s, htext, Problem.extract_eq_ok.mpr ⟨s, hcompiles.scope, hcompiles.checked, rfl⟩,
      rfl, (reachable_ofDefinitions hcompiles.scope).replay_parameters⟩
  · exact ⟨(map_replay h).1, (map_replay h).2, (reachable_ofDefinitions h).replay_parameters⟩

/-- For instance a wrong value is put right, and then stays. -/
theorem replay_history_wrong : ∃ s, replay [⟨"g", 0, "9.8", 4⟩] = .ok s ∧
    s.parameters = [⟨"g", 9.8, "9.8", 4⟩] ∧ replay s.parameters = .ok s := by
  have h : replay [⟨"g", 0, "9.8", 4⟩] = .ok (empty.push ⟨"g", 9.8, "9.8", 4⟩) :=
    ofDefinitions_num (by decide) (by decide +kernel) (eq_ok_of_toOption (by decide +kernel))
      (by decide +kernel)
  exact ⟨_, h, rfl, (replay_history.2.2 _ _ h).2.2⟩

end Equate.Scope
