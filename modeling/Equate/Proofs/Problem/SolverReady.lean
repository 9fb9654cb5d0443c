import Mathlib.Data.List.Infix
import Equate.Proofs.Conversion.Tagless
import Equate.Proofs.Directive.Keyword
import Equate.Proofs.Problem.LineByLine

/-!
# Equations as a solver gets them

What the passes look for one after another holds of each equation at the end: no line
end, no tag, no definition, no directive, one equals sign between two sides, and no
parameter in it. Whether a name stands against a number is only asked of lines that open
with no directive. A line that does and ceases to when names are replaced is asked for
nothing, and the names against its numbers come through.
-/
namespace Equate
open Text Success

namespace Equation

/-- One equals sign between two sides that are not blank. -/
def Balanced (e : Text) : Prop :=
  ∃ left right, e = left ++ '=' :: right ∧ '=' ∉ left ∧ '=' ∉ right ∧
    isBlankText left = false ∧ isBlankText right = false

theorem Balanced.isCandidate {e : Text} (h : Balanced e) : isCandidate e = true := by
  obtain ⟨left, right, rfl, -⟩ := h
  simp [Equation.isCandidate]

theorem balanced_of_cause? {e : Text} (h : cause? e = none) : Balanced e := by
  have hjoin := joinWith_splitOn '=' e
  have hparts : ∀ part ∈ splitOn '=' e, '=' ∉ part := fun _ => not_mem_of_mem_splitOn
  unfold cause? at h
  split at h
  · next left right hsplit =>
    split at h
    · cases h
    · next hsides =>
      rw [not_or, Bool.not_eq_true, Bool.not_eq_true] at hsides
      rw [hsplit] at hjoin hparts
      have heq : left ++ '=' :: right = e := by simpa [joinWith] using hjoin
      exact ⟨left, right, heq.symm, hparts left (by simp), hparts right (by simp), hsides⟩
  · cases h
  · cases h

theorem cause?_eq_none_iff {e : Text} : cause? e = none ↔ Balanced e := by
  constructor
  · exact balanced_of_cause?
  · rintro ⟨left, right, rfl, hleft, hright, hsides⟩
    have hsplit : splitOn '=' (left ++ '=' :: right) = [left, right] := by
      rw [splitOn_append hleft, splitOn_of_not_mem hright]
    unfold cause?
    rw [hsplit]
    simp [hsides]

end Equation

namespace Scope
variable {s : Scope} (h : s.Valid) {t : Text}
include h

theorem Valid.isPlainChar_of_mem_valueText {word v : Text} (hv : (s.value? word).map valueText = some v)
    {c : Char} (hc : c ∈ v) : c = '(' ∨ c = ')' ∨ Number.isPlainChar c = true := by
  obtain ⟨value, hvalue, rfl⟩ := Option.map_eq_some_iff.mp hv
  obtain ⟨p, hp, -, rfl⟩ := h.value?_eq_some.mp hvalue
  have hfinite := (Number.isFinite_iff _).mp (h.finite p hp)
  have hc' : c = '(' ∨ c ∈ Number.plain p.value ∨ c = ')' := by simpa [valueText] using hc
  rcases hc' with hc | hc | hc
  · exact .inl hc
  · exact .inr (.inr (Number.isPlainChar_of_mem_plain hfinite hc))
  · exact .inr (.inl hc)

/-- What starts with a character that stands in no value, and opens no parenthesis, is not
made by replacing names. -/
theorem Valid.infix_of_infix_substitute {d : Char} {body : Text} (hopen : '(' ∉ d :: body)
    (hclose : d ≠ ')') (hplain : Number.isPlainChar d = false)
    (hpart : d :: body <:+: s.substitute t) : d :: body <:+: t := by
  refine Name.infix_of_infix_substitute (fun word v hv => ⟨fun hd => ?_, ?_⟩) hopen hpart
  · rcases h.isPlainChar_of_mem_valueText hv hd with rfl | hd | hd
    · exact hopen List.mem_cons_self
    · exact hclose hd
    · rw [hd] at hplain
      cases hplain
  · obtain ⟨body, rfl, -⟩ := h.isGroup word v hv
    exact ⟨_, rfl⟩

theorem Valid.mem_of_mem_substitute {d : Char} (hopen : d ≠ '(') (hclose : d ≠ ')')
    (hplain : Number.isPlainChar d = false) (hd : d ∈ s.substitute t) : d ∈ t := by
  have hpart : [d] <:+: t := h.infix_of_infix_substitute (by simpa using hopen.symm) hclose hplain
    ((List.singleton_infix_iff d _).mpr hd)
  exact (List.singleton_infix_iff d t).mp hpart

/-- A name that stands against a number afterwards did so before and is none of a parameter. -/
theorem Valid.gluedName?_substitute_eq_none_iff :
    Name.gluedName? (trim (s.substitute t)) = none ↔
      ∀ word, .name word true ∈ Name.piecesOf t → word ∈ s.parameters.map Parameter.name := by
  rw [Name.gluedName?_eq_none_iff]
  refine forall_congr' fun word => ?_
  rw [Name.name_mem_piecesOf_trim, substitute, Name.name_mem_piecesOf_substitute h.isGroup,
    Option.map_eq_none_iff, h.value?_eq_none, not_and, not_not]

end Scope

namespace Problem

/-- What a solver can rely on in an equation, names against numbers apart. -/
structure Settled (parameters : List Text) (e : Text) : Prop where
  trimmed : trim e = e
  oneLine : '\n' ∉ e
  balanced : Equation.Balanced e
  undefining : ':' ∉ e
  tagless : Conversion.tags e = []
  undirected : Directive.kind? e = none
  unparametrized : ∀ word glued, .name word glued ∈ Name.piecesOf e → word ∉ parameters

/-- The checks of all passes hold of an equation. -/
structure SolverReady (parameters : List Text) (e : Text) : Prop extends Settled parameters e where
  unglued : Name.gluedName? e = none

section
variable {text : Text} {s : Scope} {r : Readings} (h : Compiles (lines text) s r) {line : Text}
include h

/-- An equation's line defines nothing, has passed the check and has been read. -/
theorem Compiles.exists_read (hline : line ∈ equationLines s (lines text)) :
    ∃ n, line ∈ lines text ∧ defines line = false ∧ Directive.directs (s.substitute line) = false ∧
      Equation.isCandidate (s.substitute line) = true ∧ s.checkLine n line = .ok () ∧
      Equation.read (s.substitute line) n = .ok (trim (s.substitute line)) := by
  obtain ⟨hmem, hequates⟩ := List.mem_filter.mp hline
  rw [Bool.and_eq_true, Bool.not_eq_true', equates, Bool.and_eq_true, Bool.not_eq_true'] at hequates
  obtain ⟨hdefines, hdirects, hcandidate⟩ := hequates
  have hrewritten := rewritten_of_not_defines (s := s) hdefines
  obtain ⟨x, hx, rfl⟩ : ∃ x ∈ (lines text).zipIdx 1, x.1 = line := by
    rw [← List.mem_map, List.zipIdx_map_fst]
    exact hmem
  have hread : ∃ e, Equation.read (rewritten s x.1) x.2 = .ok e := by
    refine exists_mapM_eq_ok.mp ⟨_, h.read.equations⟩ x (List.mem_filter.mpr ⟨hx, ?_⟩)
    rw [hrewritten, equates, hdirects, hcandidate]
    rfl
  obtain ⟨e, he⟩ := hread
  rw [hrewritten] at he
  rw [trim_of_readEquation he] at he
  exact ⟨x.2, hmem, hdefines, hdirects, hcandidate, h.checked x.1 x.2 hx hdefines, he⟩

theorem Compiles.settled (htags : ¬ Conversion.HasTag text)
    (hline : line ∈ equationLines s (lines text)) :
    Settled (s.parameters.map Parameter.name) (trim (s.substitute line)) := by
  have hvalid : s.Valid := (Scope.reachable_ofDefinitions h.scope).valid
  obtain ⟨n, hmem, hdefines, hdirects, -, -, hread⟩ := h.exists_read hline
  have hstands : ∀ {c}, c ∈ trim (s.substitute line) → c ∈ s.substitute line :=
    fun hc => (trim_isInfix _).subset hc
  constructor
  case trimmed => exact trim_trim _
  case oneLine =>
    intro hc
    exact newline_not_mem_of_mem_lines hmem
      (hvalid.mem_of_mem_substitute (by decide) (by decide) (by decide) (hstands hc))
  case balanced =>
    apply Equation.balanced_of_cause?
    unfold Equation.read at hread
    split at hread
    · cases hread
    · assumption
  case undefining =>
    intro hc
    have hcolon := hvalid.mem_of_mem_substitute (by decide) (by decide) (by decide) (hstands hc)
    exact defines_eq_false_iff.mp hdefines hcolon
  case tagless =>
    rw [Conversion.tags_eq_nil_iff]
    rintro ⟨u, hu, hpart⟩
    obtain ⟨body, rfl⟩ := hu.exists_cons
    refine htags ⟨_, hu, ?_⟩
    have hold := hvalid.infix_of_infix_substitute (hu.not_mem (by decide)) (by decide) (by decide)
      (hpart.trans (trim_isInfix _))
    exact hold.trans (infix_of_mem_lines hmem)
  case undirected =>
    rw [Directive.kind?_trim]
    exact Option.isNone_iff_eq_none.mp (Option.isSome_eq_false_iff.mp hdirects)
  case unparametrized =>
    intro word glued hpiece
    rw [Name.name_mem_piecesOf_trim, Scope.substitute,
      Name.name_mem_piecesOf_substitute hvalid.isGroup, Option.map_eq_none_iff,
      hvalid.value?_eq_none] at hpiece
    exact hpiece.2

/-- No name is written against a number on a line that opens with no directive. -/
theorem Compiles.gluedName?_eq_none (hline : line ∈ equationLines s (lines text))
    (hdirects : Directive.directs line = false) : Name.gluedName? line = none := by
  have hvalid : s.Valid := (Scope.reachable_ofDefinitions h.scope).valid
  obtain ⟨n, -, -, -, hcandidate, hcheck, -⟩ := h.exists_read hline
  have hequals : Equation.isCandidate line = true := by
    have hmem := hvalid.mem_of_mem_substitute (by decide) (by decide) (by decide)
      (List.contains_iff_mem.mp hcandidate)
    exact List.contains_iff_mem.mpr hmem
  have hkind : (Directive.kind? line).isSome = false := hdirects
  rw [Scope.checkLine, hkind, hequals, if_neg Bool.false_ne_true, if_pos rfl] at hcheck
  exact (checkEquation_eq_ok.mp hcheck).1

/-- A line that opens with a directive and becomes an equation has a letter beyond ASCII. -/
theorem Compiles.mem_of_directs (hline : line ∈ equationLines s (lines text))
    (hdirects : Directive.directs line = true) : '\u017f' ∈ line ∨ '\u212a' ∈ line := by
  have hvalid : s.Valid := (Scope.reachable_ofDefinitions h.scope).valid
  obtain ⟨n, -, -, hnone, -, -, -⟩ := h.exists_read hline
  apply Classical.byContradiction
  intro hascii
  rw [not_or] at hascii
  have hstays := Directive.directs_substitute (r := fun name => (s.value? name).map Scope.valueText)
    (fun word hword => ?_) hascii.1 hascii.2 hdirects
  · exact absurd (hstays.symm.trans hnone) Bool.noConfusion
  · have hkeywords : ∀ word ∈ Directive.openings, word ∈ Name.keywords := by decide
    rw [hvalid.value?_eq_none_of_keyword (hkeywords _ hword), Option.map_none]

end

/-- Every equation of a system passes all checks but one. It passes that for names against
numbers too exactly if all of these on its line were parameters, so in particular if the
line opened with no directive. One that does ends up as an equation only with a letter
beyond ASCII in its word, behind which a parameter's name begins. -/
theorem solverReady_equation_iff {units : Unit.Table} {source : Text} {p : Problem}
    {warnings : List Warning} (h : ofSource units source = .ok (p, warnings)) :
    ∃ text s, Conversion.resolve units.conversion source = .ok text ∧
      Scope.ofDefinitions (Scope.definitions text) = .ok s ∧ p.parameters = s.parameters ∧
      p.equations = (equationLines s (lines text)).map (fun line => trim (s.substitute line)) ∧
      ∀ line ∈ equationLines s (lines text),
        Settled (p.parameters.map Parameter.name) (trim (s.substitute line)) ∧
        (SolverReady (p.parameters.map Parameter.name) (trim (s.substitute line)) ↔
          ∀ word, .name word true ∈ Name.piecesOf line → word ∈ p.parameters.map Parameter.name) ∧
        (Directive.directs line = false →
          SolverReady (p.parameters.map Parameter.name) (trim (s.substitute line))) ∧
        (Directive.directs line = true → '\u017f' ∈ line ∨ '\u212a' ∈ line) := by
  obtain ⟨text, s, r, htext, hcompiles, heq⟩ := ofSource_eq_ok.mp h
  cases heq
  have hvalid : s.Valid := (Scope.reachable_ofDefinitions hcompiles.scope).valid
  refine ⟨text, s, htext, hcompiles.scope, rfl, hcompiles.equations_eq, fun line hline => ?_⟩
  have hsettled := hcompiles.settled (Conversion.not_hasTag_of_resolve htext) hline
  have hiff : SolverReady (s.parameters.map Parameter.name) (trim (s.substitute line)) ↔
      ∀ word, .name word true ∈ Name.piecesOf line → word ∈ s.parameters.map Parameter.name :=
    ⟨fun hready => hvalid.gluedName?_substitute_eq_none_iff.mp hready.unglued,
      fun hglued => ⟨hsettled, hvalid.gluedName?_substitute_eq_none_iff.mpr hglued⟩⟩
  refine ⟨hsettled, hiff, fun hdirects => hiff.mpr fun word hword => ?_, hcompiles.mem_of_directs hline⟩
  have hnone := hcompiles.gluedName?_eq_none hline hdirects
  exact absurd hword (Name.gluedName?_eq_none_iff.mp hnone word)

/-- For instance the equation of a fall, with its parameter replaced. -/
theorem solverReady_equation_fall :
    ∃ p warnings, ofSource ⟨[]⟩ "g: 9.8\ng * t = u" = .ok (p, warnings) ∧
      p.equations = [("(9.8) * t = u" : Text)] ∧ SolverReady [("g" : Text)] "(9.8) * t = u" := by
  have hscope : Scope.ofDefinitions [⟨1, "g: 9.8", "g", "9.8"⟩] =
      .ok (Scope.empty.push ⟨"g", 9.8, "9.8", 1⟩) :=
    Scope.ofDefinitions_num (by decide) (by decide +kernel) (eq_ok_of_toOption (by decide +kernel))
      (by decide +kernel)
  have htags : (Conversion.resolve (Unit.Table.mk []).conversion "g: 9.8\ng * t = u").toOption =
      some "g: 9.8\ng * t = u" := by decide +kernel
  have h := ofSource_of_toOption "g: 9.8\ng * t = u" ⟨[], [], ["(9.8) * t = u"]⟩
    htags hscope (by decide +kernel) (by decide +kernel) (by decide +kernel) (by decide +kernel)
  have hline : trim ((Scope.empty.push ⟨"g", 9.8, "9.8", 1⟩).substitute "g * t = u") =
      "(9.8) * t = u" := by decide +kernel
  refine ⟨_, _, h, rfl, ?_⟩
  rw [← hline]
  obtain ⟨text, s, htext, hs, -, -, hlines⟩ := solverReady_equation_iff h
  cases htext.symm.trans (eq_ok_of_toOption htags)
  cases hs.symm.trans hscope
  obtain ⟨-, -, hready, -⟩ := hlines "g * t = u" (by decide +kernel)
  exact hready (by decide +kernel)

/-- With the Kelvin sign for its first letter a line opens with a directive until a parameter
takes the other letters away. Then it is an equation, and no check has seen its `3x`. -/
theorem not_solverReady_equation_kelvin :
    ∃ p warnings, ofSource ⟨[]⟩ "eep: 1\n\u212aeep = 3x" = .ok (p, warnings) ∧
      p.equations = [("\u212a(1) = 3x" : Text)] ∧
      Name.gluedName? "\u212a(1) = 3x" = some ("x" : Text) ∧
      ¬ SolverReady (p.parameters.map Parameter.name) "\u212a(1) = 3x" := by
  have hscope : Scope.ofDefinitions [⟨1, "eep: 1", "eep", "1"⟩] =
      .ok (Scope.empty.push ⟨"eep", 1, "1", 1⟩) :=
    Scope.ofDefinitions_num (by decide) (by decide +kernel) (eq_ok_of_toOption (by decide +kernel))
      (by decide +kernel)
  have htags : (Conversion.resolve (Unit.Table.mk []).conversion "eep: 1\n\u212aeep = 3x").toOption =
      some "eep: 1\n\u212aeep = 3x" := by decide +kernel
  have h := ofSource_of_toOption "eep: 1\n\u212aeep = 3x" ⟨[], [], ["\u212a(1) = 3x"]⟩
    htags hscope (by decide +kernel) (by decide +kernel) (by decide +kernel) (by decide +kernel)
  have hglued : Name.gluedName? "\u212a(1) = 3x" = some ("x" : Text) := by decide +kernel
  refine ⟨_, _, h, rfl, hglued, fun hready => ?_⟩
  exact absurd (hglued.symm.trans hready.unglued) (Option.some_ne_none _)

end Problem
end Equate
