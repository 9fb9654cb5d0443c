import Equate.Number.Plain
import Equate.Parameter.Extraction
import Equate.Proofs.Name.Pieces
import Equate.Proofs.Number.Binary64
import Equate.Proofs.Parameter.Reachable

/-!
# Names replaced by values

A value stands in parentheses where its parameter's name stood. It has no line end, so the
lines of a text are rewritten each on its own; and since the values of a scope that
definitions lead to are finite, no letter stands in one, so the names of the new text are
names of the old one, those of parameters left out.
-/
namespace Equate.Scope
open Text

/-! ## Values as texts -/

theorem valueText_ne_nil (value : Float) : valueText value ≠ [] := List.cons_ne_nil _ _

theorem not_mem_valueText {c : Char} {value : Float} (hopen : c ≠ '(') (hclose : c ≠ ')')
    (h : c ∉ Number.plain value) : c ∉ valueText value := by
  simp [valueText, hopen, hclose, h]

theorem isStart_of_isPlainChar {c : Char} (h : Number.isPlainChar c) : Name.isStart c = false := by
  unfold Number.isPlainChar at h
  simp only [Bool.or_eq_true, beq_iff_eq] at h
  rcases h with (h | rfl) | rfl
  · rw [← Bool.not_eq_true]
    intro hstart
    exact absurd h (by rw [Name.isDigit_of_isStart hstart]; exact Bool.false_ne_true)
  · decide
  · decide

/-- A finite value is a group without names. -/
theorem isGroup_valueText {value : Float} (h : value.isFinite = true) :
    Name.IsGroup (valueText value) :=
  ⟨Number.plain value, rfl, fun _ hc =>
    isStart_of_isPlainChar (Number.isPlainChar_of_mem_plain ((Number.isFinite_iff value).mp h) hc)⟩

/-! ## Line by line -/

/-- Names give way to values on each line on its own. -/
theorem linewise_substitute (s : Scope) :
    Linewise fun t => (.ok (s.substitute t) : Except Fault Text) := by
  refine Name.linewise_substitute fun word v h => ?_
  obtain ⟨value, -, rfl⟩ := Option.map_eq_some_iff.mp h
  exact ⟨valueText_ne_nil value,
    not_mem_valueText (by decide) (by decide) (Number.newline_not_mem_plain value),
    not_mem_valueText (by decide) (by decide) (Number.return_not_mem_plain value)⟩

theorem lines_substitute (s : Scope) (t : Text) :
    lines (s.substitute t) = (lines t).map s.substitute := by
  have h := (linewise_substitute s).map_lines t
  rw [show (lines t).mapM (fun t => (.ok (s.substitute t) : Except Fault Text)) =
    .ok ((lines t).map s.substitute) from List.mapM_pure] at h
  exact Except.ok.inj h

theorem substitute_withoutReturn (s : Scope) {line : Text} (h : '\n' ∉ line) :
    s.substitute (withoutReturn line) = withoutReturn (s.substitute line) :=
  Except.ok.inj ((linewise_substitute s).withoutReturn h)

theorem substitute_append_return (s : Scope) (line : Text) :
    s.substitute (line ++ ['\r']) = s.substitute line ++ ['\r'] :=
  Except.ok.inj ((linewise_substitute s).carriage line)

@[simp] theorem substitute_nil (s : Scope) : s.substitute [] = [] :=
  Except.ok.inj (linewise_substitute s).nil

/-! ## Names that are left -/

theorem Valid.isGroup {s : Scope} (h : s.Valid) (word v : Text)
    (hv : (s.value? word).map valueText = some v) : Name.IsGroup v := by
  obtain ⟨value, hvalue, rfl⟩ := Option.map_eq_some_iff.mp hv
  obtain ⟨p, hp, -, rfl⟩ := h.value?_eq_some.mp hvalue
  exact isGroup_valueText (h.finite p hp)

/-- No word of a directive is the name of a parameter, in whatever letters. -/
theorem Valid.value?_eq_none_of_keyword {s : Scope} (h : s.Valid) {word : Text}
    (hword : word.map Char.toLower ∈ Name.keywords) : s.value? word = none := by
  rw [h.value?_eq_none]
  intro hname
  obtain ⟨p, hp, rfl⟩ := List.mem_map.mp hname
  have hreserved := h.unreserved p hp
  rw [Name.isReserved, List.contains_iff_mem.mpr hword] at hreserved
  cases hreserved

/-- No name that is left is that of a parameter. -/
theorem Valid.not_mem_of_mem_identifiers {s : Scope} (h : s.Valid) {t name : Text}
    (hname : name ∈ Name.identifiers (s.substitute t)) :
    name ∉ s.parameters.map Parameter.name := by
  rw [← h.value?_eq_none, ← Option.map_eq_none_iff (f := valueText)]
  exact Name.eq_none_of_mem_identifiers_substitute h.isGroup hname

end Equate.Scope
