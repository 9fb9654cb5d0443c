import Equate.Proofs.Parameter.History
import Equate.Proofs.Parameter.Substitution

/-!
# Values put in again

A caller can put the values of a scope into a text, go on to define parameters, and put the
values in once more. The values that stand in the text already have no letters, and no name
beside them is read in another way than before; so the second time reaches exactly the names
that the first time left, and the text is what the last scope alone would have made of it.
-/
namespace Equate

namespace Name

/-- Names replaced twice, at first by groups: each gives way to the first replacement that it
has. -/
theorem substitute_substitute {r r' : Text → Option Text}
    (hr : ∀ word v, r word = some v → IsGroup v) (t : Text) :
    substitute r' (substitute r t) = substitute (fun word => (r word).or (r' word)) t := by
  have hothers : ∀ v : Text, (v.map Piece.other).flatMap (replaced r') = v := by
    intro v
    induction v with
    | nil => rfl
    | cons c v ih => rw [List.map_cons, List.flatMap_cons, ih]; rfl
  have hpiece : ∀ piece, (regrouped r piece).flatMap (replaced r') =
      replaced (fun word => (r word).or (r' word)) piece := by
    intro piece
    cases piece with
    | name word glued =>
      rw [regrouped, replaced]
      cases r word with
      | none => exact List.append_nil _
      | some v => exact hothers v
    | exponent word => exact List.append_nil word
    | other c => rfl
  simp only [substitute_eq_flatMap, piecesOf, pieces_flatMap_replaced hr, List.flatMap_assoc, hpiece]

end Name

namespace Scope

/-! ## Scopes that grow -/

/-- A call leaves every value as it is. -/
theorem value?_call {s : Scope} (h : s.Reachable) (d : Definition) {name : Text} {value : Float}
    (hvalue : s.value? name = some value) : (s.call d).2.value? name = some value := by
  rw [call_eq]
  cases hdefine : s.define d with
  | error fault => exact hvalue
  | ok s' =>
    obtain ⟨p, hp, hname⟩ := h.valid.value?_eq_some.mp hvalue
    obtain ⟨-, -, -, x, -, rfl⟩ := define_eq_ok.mp hdefine
    exact (Reachable.define h hdefine).valid.value?_eq_some.mpr
      ⟨p, List.mem_append_left _ hp, hname⟩

theorem history_concat (ds : List Definition) (d : Definition) :
    history (ds ++ [d]) = ((history ds).call d).2 :=
  List.foldl_append

/-- So do all calls that follow. -/
theorem value?_history_append (ds more : List Definition) {name : Text} {value : Float}
    (hvalue : (history ds).value? name = some value) :
    (history (ds ++ more)).value? name = some value := by
  induction more using List.reverseRecOn with
  | nil => rwa [List.append_nil]
  | append_singleton more d ih =>
    rw [← List.append_assoc, history_concat]
    exact value?_call (reachable_history (ds ++ more)) d ih

/-! ## Substitution -/

/-- The values of a scope put into a text that has those of an earlier one already: the text is
that of the later scope alone. With no call in between, putting in the values again changes
nothing. -/
theorem substitute_history_append (ds more : List Definition) (t : Text) :
    (history (ds ++ more)).substitute ((history ds).substitute t) =
      (history (ds ++ more)).substitute t := by
  have hgroup := (reachable_history ds).valid.isGroup
  have hlater : ∀ word, (((history ds).value? word).map valueText).or
      (((history (ds ++ more)).value? word).map valueText) =
        ((history (ds ++ more)).value? word).map valueText := by
    intro word
    cases hvalue : (history ds).value? word with
    | none => rfl
    | some value => rw [value?_history_append ds more hvalue]; rfl
  calc
    (history (ds ++ more)).substitute ((history ds).substitute t)
      = Name.substitute (fun word => (((history ds).value? word).map valueText).or
          (((history (ds ++ more)).value? word).map valueText)) t :=
        Name.substitute_substitute hgroup t
    _ = (history (ds ++ more)).substitute t := by
      simp only [hlater]
      rfl

/-- For instance with a parameter that is defined after the first time. -/
example : let before := empty.push ⟨"g", 9.8, "9.8", 1⟩
    let after := before.push ⟨"h", 19.6, "2*g", 2⟩
    before.substitute "g*h = 1e5x" = "(9.8)*h = 1e5x" ∧
      after.substitute "(9.8)*h = 1e5x" = "(9.8)*(19.6) = 1e5x" := by
  decide +kernel

end Scope
end Equate
