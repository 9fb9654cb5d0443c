import Equate.Proofs.Name.Calls
import Equate.Proofs.Problem.LineByLine

/-!
# The names of an equation before and after

The check of a line looks at its names before parameters give way to values, the unknowns
are collected afterwards. Apart from the parameters both read the same names in a line,
unless a function's name stands there uncalled in front of a parameter: `sin g` names two
things, `sin (9.8)` none, so a line may pass the check and still leave nothing to solve for.
-/
namespace Equate
open Text Success

namespace Scope
variable {s : Scope}

/-- A function's name stands in front of a parameter, with blanks at most between them. -/
def hidesName (s : Scope) (line : Text) : Bool :=
  Name.hidesName (fun name => (s.value? name).map valueText) (Name.piecesOf line)

/-- The names of a line that are not those of parameters. -/
def otherNames (s : Scope) (line : Text) : List Text :=
  (Name.identifiers line).filter fun name => !(s.parameters.map Parameter.name).contains name

theorem Valid.not_mem_of_unreserved (h : s.Valid) {name : Text}
    (hname : ((s.value? name).map valueText).isSome = true) :
    name ∉ Name.functions ∧ name ∉ Name.constants := by
  rw [Option.isSome_map] at hname
  obtain ⟨value, hvalue⟩ := Option.isSome_iff_exists.mp hname
  obtain ⟨p, hp, rfl, -⟩ := h.value?_eq_some.mp hvalue
  have hreserved := h.unreserved p hp
  simp only [Name.isReserved, Bool.or_eq_false_iff] at hreserved
  refine ⟨fun hmem => ?_, fun hmem => ?_⟩
  · rw [List.contains_iff_mem.mpr hmem] at hreserved
    exact absurd hreserved.1.2 Bool.noConfusion
  · rw [List.contains_iff_mem.mpr hmem] at hreserved
    exact absurd hreserved.2 Bool.noConfusion

/-- Where a line hides a name: between a function and a parameter stand blanks only. -/
theorem Valid.hidesName_iff (h : s.Valid) {line : Text} :
    s.hidesName line = true ↔ ∃ before function glued blanks name glued' after,
      Name.piecesOf line = before ++ .name function glued ::
        (List.map Name.Piece.other blanks ++ .name name glued' :: after) ∧
      function ∈ Name.functions ∧ (∀ c ∈ blanks, isBlank c = true) ∧
        name ∈ s.parameters.map Parameter.name := by
  have hparameter : ∀ name, ((s.value? name).map valueText).isSome = true ↔
      name ∈ s.parameters.map Parameter.name := by
    intro name
    rw [← Decidable.not_iff_not, ← h.value?_eq_none, Option.isSome_map, Bool.not_eq_true,
      Option.isSome_eq_false_iff, Option.isNone_iff_eq_none]
  rw [hidesName, Name.hidesName_iff]
  constructor
  · rintro ⟨before, function, glued, rest, hpieces, hfunction, hopens⟩
    obtain ⟨blanks, name, glued', after, rfl, hblanks, hname⟩ := (Name.opensReplaced_iff _).mp hopens
    exact ⟨before, function, glued, blanks, name, glued', after, hpieces, hfunction, hblanks,
      (hparameter name).mp hname⟩
  · rintro ⟨before, function, glued, blanks, name, glued', after, hpieces, hfunction, hblanks, hname⟩
    exact ⟨before, function, glued, _, hpieces, hfunction, (Name.opensReplaced_iff _).mpr
      ⟨blanks, name, glued', after, rfl, hblanks, (hparameter name).mpr hname⟩⟩

/-- Replacement takes away exactly the names of parameters unless it hides others. -/
theorem Valid.identifiers_substitute_eq_iff (h : s.Valid) (line : Text) :
    Name.identifiers (trim (s.substitute line)) = s.otherNames line ↔ s.hidesName line = false := by
  have hnames : s.otherNames line =
      (Name.identifiers line).filter fun name => ((s.value? name).map valueText).isNone := by
    refine List.filter_congr fun name _ => ?_
    rw [Option.isNone_map, Bool.eq_iff_iff, Bool.not_eq_true', Option.isNone_iff_eq_none,
      h.value?_eq_none, ← List.contains_iff_mem, Bool.not_eq_true]
  rw [Name.identifiers_trim, hnames]
  exact Name.identifiers_substitute_eq_iff h.isGroup (fun _ => h.not_mem_of_unreserved) line

end Scope

namespace Problem

/-- The equations of a system come from lines whose names, apart from parameters, are the
names that are read in them afterwards, exactly if no line hides one. And if it hides none,
an equation of a line that names anything but parameters has an unknown. -/
theorem identifiers_equation_iff {units : Unit.Table} {source : Text} {p : Problem}
    {warnings : List Warning} (h : ofSource units source = .ok (p, warnings)) :
    ∃ text s, Conversion.resolve units.conversion source = .ok text ∧
      Scope.ofDefinitions (Scope.definitions text) = .ok s ∧ p.parameters = s.parameters ∧
      p.equations = (equationLines s (lines text)).map (fun line => trim (s.substitute line)) ∧
      ∀ line ∈ equationLines s (lines text),
        (Name.identifiers (trim (s.substitute line)) = s.otherNames line ↔
          s.hidesName line = false) ∧
        (s.hidesName line = false → s.otherNames line ≠ [] →
          ∃ name ∈ Name.identifiers (trim (s.substitute line)), name ∈ p.unknowns) := by
  obtain ⟨text, s, r, htext, hcompiles, heq⟩ := ofSource_eq_ok.mp h
  cases heq
  have hvalid : s.Valid := (Scope.reachable_ofDefinitions hcompiles.scope).valid
  refine ⟨text, s, htext, hcompiles.scope, rfl, hcompiles.equations_eq, fun line hline => ?_⟩
  have hiff := hvalid.identifiers_substitute_eq_iff line
  refine ⟨hiff, fun hhides hother => ?_⟩
  obtain ⟨name, names, hnames⟩ := List.exists_cons_of_ne_nil hother
  have hname : name ∈ Name.identifiers (trim (s.substitute line)) := by
    rw [hiff.mpr hhides, hnames]
    exact List.mem_cons_self
  have hequation : trim (s.substitute line) ∈ r.equations := by
    rw [hcompiles.equations_eq]
    exact List.mem_map.mpr ⟨line, hline, rfl⟩
  exact ⟨name, hname, List.mem_eraseDups.mpr (List.mem_flatMap.mpr ⟨_, hequation, hname⟩)⟩

/-- For instance a function that is called on a parameter hides nothing. -/
theorem identifiers_equation_called :
    ∃ p warnings, ofSource ⟨[]⟩ "g: 9.8\nsin (g) * x = 1" = .ok (p, warnings) ∧
      p.equations = [("sin ((9.8)) * x = 1" : Text)] ∧
      Name.identifiers "sin ((9.8)) * x = 1" =
        (Scope.empty.push ⟨"g", 9.8, "9.8", 1⟩).otherNames "sin (g) * x = 1" := by
  have hscope : Scope.ofDefinitions [⟨1, "g: 9.8", "g", "9.8"⟩] =
      .ok (Scope.empty.push ⟨"g", 9.8, "9.8", 1⟩) :=
    Scope.ofDefinitions_num (by decide) (by decide +kernel) (eq_ok_of_toOption (by decide +kernel))
      (by decide +kernel)
  have htags : (Conversion.resolve (Unit.Table.mk []).conversion "g: 9.8\nsin (g) * x = 1").toOption =
      some "g: 9.8\nsin (g) * x = 1" := by decide +kernel
  have h := ofSource_of_toOption "g: 9.8\nsin (g) * x = 1"
    ⟨[], [], ["sin ((9.8)) * x = 1"]⟩ htags hscope (by decide +kernel) (by decide +kernel)
    (by decide +kernel) (by decide +kernel)
  have hline : trim ((Scope.empty.push ⟨"g", 9.8, "9.8", 1⟩).substitute "sin (g) * x = 1") =
      "sin ((9.8)) * x = 1" := by decide +kernel
  refine ⟨_, _, h, rfl, ?_⟩
  rw [← hline]
  obtain ⟨text, s, htext, hs, -, -, hlines⟩ := identifiers_equation_iff h
  cases htext.symm.trans (eq_ok_of_toOption htags)
  cases hs.symm.trans hscope
  exact (hlines "sin (g) * x = 1" (by decide +kernel)).1.mpr (by decide +kernel)

/-- A function that is not called is a name, until a parameter behind it gives way to its
value: then the equation has no unknown, though its line named one. -/
theorem identifiers_equation_hidden :
    ∃ p warnings, ofSource ⟨[]⟩ "g: 9.8\nsin g = 1" = .ok (p, warnings) ∧
      p.parameters.map Parameter.name = [("g" : Text)] ∧ p.equations = [("sin (9.8) = 1" : Text)] ∧
      Name.identifiers "sin g = 1" = [("sin" : Text), ("g" : Text)] ∧
      Name.identifiers "sin (9.8) = 1" = [] ∧ p.unknowns = [] := by
  have hscope : Scope.ofDefinitions [⟨1, "g: 9.8", "g", "9.8"⟩] =
      .ok (Scope.empty.push ⟨"g", 9.8, "9.8", 1⟩) :=
    Scope.ofDefinitions_num (by decide) (by decide +kernel) (eq_ok_of_toOption (by decide +kernel))
      (by decide +kernel)
  have htags : (Conversion.resolve (Unit.Table.mk []).conversion "g: 9.8\nsin g = 1").toOption =
      some "g: 9.8\nsin g = 1" := by decide +kernel
  have h := ofSource_of_toOption "g: 9.8\nsin g = 1" ⟨[], [], ["sin (9.8) = 1"]⟩
    htags hscope (by decide +kernel) (by decide +kernel) (by decide +kernel)
    (by decide +kernel)
  exact ⟨_, _, h, rfl, rfl, by decide +kernel, by decide +kernel, by decide +kernel⟩

end Problem
end Equate
