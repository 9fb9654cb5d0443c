import Equate.Proofs.Expr.Lexeme
import Equate.Proofs.Problem.SolverReady

/-!
# Names behind the numbers of equations

Of a line that opens with no directive it is asked that no name is written against a number. That
leaves one way in which an equation has a name directly behind a number: an exponent with a sign
that has another exponent behind its digits. Neither that nor the names against numbers are
changed where parameters give way to their values.
-/
namespace Equate
open Text Success

namespace Scope
variable {s : Scope} (h : s.Valid) {line : Text}
include h

/-- In an equation the numbers end exactly if all names against numbers on its line were parameters
and no exponent is repeated there. -/
theorem Valid.numbersEnd_substitute_iff :
    Expr.NumbersEnd (trim (s.substitute line)) ↔
      (∀ word, .name word true ∈ Name.piecesOf line → word ∈ s.parameters.map Parameter.name) ∧
        ¬ Name.RepeatsExponent line := by
  rw [Expr.numbersEnd_iff, h.gluedName?_substitute_eq_none_iff, Name.repeatsExponent_trim, substitute,
    Name.repeatsExponent_substitute h.isGroup]

end Scope

namespace Problem

/-- In an equation of a line that opens with no directive no name starts directly behind a number,
unless an exponent is repeated on the line. A line that does open with a directive becomes an equation
only with a letter beyond ASCII, and then its names against numbers must be parameters too. -/
theorem numbersEnd_equation_iff {units : Unit.Table} {source : Text} {p : Problem}
    {warnings : List Warning} (h : ofSource units source = .ok (p, warnings)) :
    ∃ text s, Conversion.resolve units.conversion source = .ok text ∧
      Scope.ofDefinitions (Scope.definitions text) = .ok s ∧ p.parameters = s.parameters ∧
      p.equations = (equationLines s (lines text)).map (fun line => trim (s.substitute line)) ∧
      ∀ line ∈ equationLines s (lines text),
        (Expr.NumbersEnd (trim (s.substitute line)) ↔
          (∀ word, .name word true ∈ Name.piecesOf line → word ∈ p.parameters.map Parameter.name) ∧
            ¬ Name.RepeatsExponent line) ∧
        (Directive.directs line = false →
          (Expr.NumbersEnd (trim (s.substitute line)) ↔ ¬ Name.RepeatsExponent line)) ∧
        (Directive.directs line = true → '\u017f' ∈ line ∨ '\u212a' ∈ line) := by
  obtain ⟨text, s, r, htext, hcompiles, heq⟩ := ofSource_eq_ok.mp h
  cases heq
  have hvalid : s.Valid := (Scope.reachable_ofDefinitions hcompiles.scope).valid
  refine ⟨text, s, htext, hcompiles.scope, rfl, hcompiles.equations_eq, fun line hline => ?_⟩
  have hiff : Expr.NumbersEnd (trim (s.substitute line)) ↔
      (∀ word, .name word true ∈ Name.piecesOf line → word ∈ s.parameters.map Parameter.name) ∧
        ¬ Name.RepeatsExponent line := hvalid.numbersEnd_substitute_iff
  refine ⟨hiff, fun hdirects => hiff.trans (and_iff_right fun word hword => ?_),
    hcompiles.mem_of_directs hline⟩
  have hnone := hcompiles.gluedName?_eq_none hline hdirects
  exact absurd hword (Name.gluedName?_eq_none_iff.mp hnone word)

/-- For instance an equation with one exponent and a parameter behind it. -/
theorem numbersEnd_equation_exponent :
    ∃ p warnings, ofSource ⟨[]⟩ "g: 9.8\nx = 1e+5*g + 2E3" = .ok (p, warnings) ∧
      p.equations = [("x = 1e+5*(9.8) + 2E3" : Text)] ∧
      Expr.NumbersEnd "x = 1e+5*(9.8) + 2E3" := by
  have hscope : Scope.ofDefinitions [⟨1, "g: 9.8", "g", "9.8"⟩] =
      .ok (Scope.empty.push ⟨"g", 9.8, "9.8", 1⟩) :=
    Scope.ofDefinitions_num (by decide) (by decide +kernel) (eq_ok_of_toOption (by decide +kernel))
      (by decide +kernel)
  have htags : (Conversion.resolve (Unit.Table.mk []).conversion
      "g: 9.8\nx = 1e+5*g + 2E3").toOption = some "g: 9.8\nx = 1e+5*g + 2E3" := by decide +kernel
  have h := ofSource_of_toOption "g: 9.8\nx = 1e+5*g + 2E3" ⟨[], [], ["x = 1e+5*(9.8) + 2E3"]⟩
    htags hscope (by decide +kernel) (by decide +kernel) (by decide +kernel) (by decide +kernel)
  have hline : trim ((Scope.empty.push ⟨"g", 9.8, "9.8", 1⟩).substitute "x = 1e+5*g + 2E3") =
      "x = 1e+5*(9.8) + 2E3" := by decide +kernel
  refine ⟨_, _, h, rfl, ?_⟩
  rw [← hline]
  obtain ⟨text, s, htext, hs, -, -, hlines⟩ := numbersEnd_equation_iff h
  cases htext.symm.trans (eq_ok_of_toOption htags)
  cases hs.symm.trans hscope
  obtain ⟨-, hends, -⟩ := hlines "x = 1e+5*g + 2E3" (by decide +kernel)
  exact (hends (by decide +kernel)).mpr (by decide +kernel)

/-- A second exponent behind the digits of a signed one passes the check, though the number ends in
front of it and a name is read there. -/
theorem not_numbersEnd_equation_repeated :
    ∃ p warnings, ofSource ⟨[]⟩ "x = 1e+5e3" = .ok (p, warnings) ∧
      p.equations = [("x = 1e+5e3" : Text)] ∧ p.unknowns = [("x" : Text)] ∧ warnings = [] ∧
      Expr.lexemes "x = 1e+5e3" =
        [.word "x", .other ' ', .other '=', .other ' ', .literal "1e+5", .word "e3"] ∧
      ¬ Expr.NumbersEnd "x = 1e+5e3" := by
  have htags : (Conversion.resolve (Unit.Table.mk []).conversion "x = 1e+5e3").toOption =
      some "x = 1e+5e3" := by decide +kernel
  have h := ofSource_of_toOption "x = 1e+5e3" ⟨[], [], ["x = 1e+5e3"]⟩ htags rfl
    (by decide +kernel) (by decide +kernel) (by decide +kernel) (by decide +kernel)
  have hlexemes : Expr.lexemes "x = 1e+5e3" =
      [.word "x", .other ' ', .other '=', .other ' ', .literal "1e+5", .word "e3"] := by
    decide +kernel
  refine ⟨_, _, h, rfl, by decide +kernel, by decide +kernel, hlexemes, fun hends => ?_⟩
  have hstart := hends [.word "x", .other ' ', .other '=', .other ' '] "1e+5" [.word "e3"] hlexemes
    'e' ['3'] rfl
  exact absurd hstart (by decide)

end Problem
end Equate
