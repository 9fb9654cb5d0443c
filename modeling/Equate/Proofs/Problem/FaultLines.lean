import Equate.Proofs.Problem.Statements

/-!
# The line that a fault points at

Every pass counts the lines of the text that it has in front of it anew. A fault that names a
line nevertheless names one of the source, and quotes it: as it is written up to its
conversion tags where a definition or a glued name is refused, and with the values of the
parameters in it where a directive or an equation is.
-/
namespace Equate
open Text Success

/-! ## What a step can be refused for -/

section
variable {e : Fault}

theorem Unit.line?_of_conversion_eq_error {units : Table} {source target : Text}
    (h : units.conversion source target = .error e) : e.line? = none := by
  unfold Table.conversion at h
  split at h
  · cases h
    rfl
  · dsimp only at h
    split at h
    · cases h
    · cases h
      rfl

theorem Scope.define_eq_error {s : Scope} {d : Definition} (h : s.define d = .error e) :
    e.line? = none ∨ ∃ reason, e = .parameter d.line d.text reason := by
  unfold define at h
  split at h
  · exact .inr ⟨_, (Except.error.inj h).symm⟩
  split at h
  · cases h
    exact .inl rfl
  split at h
  · cases h
    exact .inl rfl
  split at h
  · exact .inr ⟨_, (Except.error.inj h).symm⟩
  · cases h

theorem Scope.checkLine_eq_error {s : Scope} {n : Nat} {line : Text}
    (h : s.checkLine n line = .error e) :
    e.line? = none ∨ ∃ name, e = (Equation.Cause.missingOperator name).fault n line := by
  unfold checkLine at h
  split at h
  · unfold checkDirective at h
    split at h
    · cases h
    · split at h
      · cases h
        exact .inl rfl
      · cases h
  split at h
  · unfold checkEquation at h
    split at h
    · exact .inr ⟨_, (Except.error.inj h).symm⟩
    · split at h
      · cases h
      · split at h
        · cases h
          exact .inl rfl
        · cases h
  · cases h

theorem Equation.cause?_ne_missingOperator (line name : Text) :
    cause? line ≠ some (.missingOperator name) := by
  unfold cause?
  split
  · split <;> simp
  · simp
  · simp

theorem Equation.read_eq_error {line : Text} {n : Nat} (h : read line n = .error e) :
    ∃ cause : Cause, (∀ name, cause ≠ .missingOperator name) ∧ e = cause.fault n line := by
  unfold read at h
  split at h
  · next cause hcause =>
    refine ⟨cause, ?_, (Except.error.inj h).symm⟩
    rintro name rfl
    exact cause?_ne_missingOperator _ _ hcause
  · cases h

end

namespace Problem

/-! ## What a fault quotes -/

/-- The fault quotes the line; with the values of the scope in it, except where a definition
or a name glued to a number is refused. -/
def Quotes (scope : Option Scope) (line : Text) : Fault → Prop
  | .parameter _ text _ => text = trim line
  | .directive _ text _ => ∃ s, scope = some s ∧ text = trim (s.substitute line)
  | .equation _ text reason =>
    if ("missing operator" : Text) <+: reason then text = trim line
    else ∃ s, scope = some s ∧ text = trim (s.substitute line)
  | _ => False

theorem quotes_missingOperator (scope : Option Scope) (name : Text) (n : Nat) (line : Text) :
    Quotes scope line ((Equation.Cause.missingOperator name).fault n line) := by
  have hreason : ("missing operator" : Text) <+: (Equation.Cause.missingOperator name).reason :=
    ⟨" before '" ++ name ++ "'", rfl⟩
  simp only [Equation.Cause.fault, Quotes, if_pos hreason]

theorem quotes_equation (s : Scope) (line : Text) (n : Nat) {cause : Equation.Cause}
    (h : ∀ name, cause ≠ .missingOperator name) :
    Quotes (some s) line (cause.fault n (s.substitute line)) := by
  have hreason : ¬("missing operator" : Text) <+: cause.reason := by
    cases cause with
    | missingOperator name => exact absurd rfl (h name)
    | notOneEquals => decide
    | blankSide => decide
  simp only [Equation.Cause.fault, Quotes, if_neg hreason]
  exact ⟨s, rfl, rfl⟩

/-! ## One pass after another -/

section
variable {ls : List Text} {s : Scope} {fault : Fault} {n : Nat}

/-- The scope that lines without tags define. -/
def scopeOf? (ls : List Text) : Option Scope :=
  (Scope.ofDefinitions ((ls.zipIdx 1).filterMap fun (line, n) => definition? line n)).toOption

theorem quotes_of_ofDefinitions_eq_error {e : Fault}
    (h : Scope.ofDefinitions ((ls.zipIdx 1).filterMap fun (line, n) => definition? line n) = .error e)
    (hn : e.line? = some n) (scope : Option Scope) :
    ∃ line, (line, n) ∈ ls.zipIdx 1 ∧ Quotes scope line e := by
  obtain ⟨s, d, hd, hdefine⟩ := exists_of_foldlM_eq_error h
  obtain ⟨⟨line, m⟩, hx, hdefinition⟩ := List.mem_filterMap.mp hd
  obtain ⟨parts, -, rfl⟩ := Option.map_eq_some_iff.mp hdefinition
  rcases Scope.define_eq_error hdefine with hnone | ⟨reason, rfl⟩
  · rw [hn] at hnone
    cases hnone
  · obtain rfl := Option.some.inj hn
    exact ⟨line, hx, rfl⟩

theorem quotes_of_forM_checkLine_eq_error {e : Fault}
    (h : (ls.zipIdx 1).forM (fun (line, n) => s.checkLine n (emptied defines line)) = .error e)
    (hn : e.line? = some n) (scope : Option Scope) :
    ∃ line, (line, n) ∈ ls.zipIdx 1 ∧ Quotes scope line e := by
  obtain ⟨⟨line, m⟩, hx, hcheck⟩ := exists_of_forM_eq_error h
  replace hcheck : s.checkLine m (emptied defines line) = .error e := hcheck
  unfold emptied at hcheck
  split at hcheck
  · -- An empty line passes every check.
    rw [show s.checkLine m [] = .ok () from rfl] at hcheck
    cases hcheck
  rcases Scope.checkLine_eq_error hcheck with hnone | ⟨name, rfl⟩
  · rw [hn] at hnone
    cases hnone
  · obtain rfl := Option.some.inj hn
    exact ⟨line, hx, quotes_missingOperator scope name m line⟩

/-- A line that something is read from is no definition. -/
theorem rewritten_of_ne_nil {line : Text} (h : rewritten s line ≠ []) :
    rewritten s line = s.substitute line := by
  cases hdefines : defines line with
  | true => exact absurd (rewritten_of_defines hdefines) h
  | false => exact rewritten_of_not_defines hdefines

theorem quotes_of_readings_eq_error {e : Fault}
    (h : readings (rewritten s) (ls.zipIdx 1) = .error e) (hn : e.line? = some n) :
    ∃ line, (line, n) ∈ ls.zipIdx 1 ∧ Quotes (some s) line e := by
  have hkind : ∀ {x : Text × Nat} {kind}, (Directive.kind? (rewritten s x.1) == some kind) = true →
      rewritten s x.1 = s.substitute x.1 := by
    intro x kind hx
    refine rewritten_of_ne_nil fun hnil => ?_
    rw [hnil] at hx
    cases hx
  have hdirective : ∀ {x : Text × Nat}, x ∈ ls.zipIdx 1 → rewritten s x.1 = s.substitute x.1 →
      (∃ cause : Directive.Cause, e = cause.fault x.2 (rewritten s x.1)) →
        ∃ line, (line, n) ∈ ls.zipIdx 1 ∧ Quotes (some s) line e := by
    rintro ⟨line, m⟩ hx hline ⟨cause, rfl⟩
    obtain rfl := Option.some.inj hn
    exact ⟨line, hx, s, rfl, by rw [hline]⟩
  rcases bind_eq_error.mp h with h | ⟨gs, -, h⟩
  · obtain ⟨x, hx, hread⟩ := exists_of_mapM_eq_error h
    obtain ⟨hx, hfilter⟩ := List.mem_filter.mp hx
    exact hdirective hx (hkind hfilter) (Directive.readGuess_eq_error hread)
  rcases bind_eq_error.mp h with h | ⟨ks, -, h⟩
  · obtain ⟨x, hx, hread⟩ := exists_of_mapM_eq_error h
    obtain ⟨hx, hfilter⟩ := List.mem_filter.mp hx
    exact hdirective hx (hkind hfilter) (Directive.readKeep_eq_error hread)
  rcases bind_eq_error.mp h with h | ⟨es, -, h⟩
  · obtain ⟨⟨line, m⟩, hx, hread⟩ := exists_of_mapM_eq_error h
    obtain ⟨hx, hfilter⟩ := List.mem_filter.mp hx
    have hline : rewritten s line = s.substitute line := rewritten_of_ne_nil fun hnil => by
      rw [hnil] at hfilter
      cases hfilter
    obtain ⟨cause, hcause, rfl⟩ := Equation.read_eq_error hread
    obtain rfl := Option.some.inj hn
    exact ⟨line, hx, by rw [hline]; exact quotes_equation s line m hcause⟩
  · cases h

theorem quotes_of_readLines_eq_error {e : Fault} (h : readLines ls = .error e)
    (hn : e.line? = some n) : ∃ line, (line, n) ∈ ls.zipIdx 1 ∧ Quotes (scopeOf? ls) line e := by
  rcases bind_eq_error.mp h with h | ⟨s, hs, h⟩
  · exact quotes_of_ofDefinitions_eq_error h hn _
  rcases bind_eq_error.mp h with h | ⟨-, -, h⟩
  · exact quotes_of_forM_checkLine_eq_error h hn _
  rcases bind_eq_error.mp h with h | ⟨r, -, h⟩
  · rw [scopeOf?, hs]
    exact quotes_of_readings_eq_error h hn
  · cases h

end

/-! ## Whole sources -/

theorem scope?_eq {units : Unit.Table} {source : Text} {ls : List Text}
    (h : (lines source).mapM (Conversion.resolve units.conversion) = .ok ls) :
    scope? units source = scopeOf? ls := by
  rw [← (Conversion.linewise_resolve units.conversion).map_lines source] at h
  obtain ⟨text, htext, rfl⟩ := map_eq_ok.mp h
  rw [scope?, resolved?_eq_some.mpr htext]
  rfl

/-- A fault that names a line names one of the source and quotes it. -/
theorem exists_line_of_fault {units : Unit.Table} {source : Text} {fault : Fault} {n : Nat}
    (h : ofSource units source = .error (.source fault)) (hn : fault.line? = some n) :
    1 ≤ n ∧ n ≤ (lines source).length ∧
      ∃ raw line, (lines source)[n - 1]? = some raw ∧
        Conversion.resolve units.conversion raw = .ok line ∧
        Quotes (scope? units source) line fault := by
  obtain ⟨e, he, heq⟩ := mapError_eq_error.mp h
  cases heq
  rw [resolve_eq] at he
  rcases bind_eq_error.mp he with he | ⟨ls, hls, he⟩
  · obtain ⟨raw, -, hraw⟩ := exists_of_mapM_eq_error he
    obtain ⟨a, b, hfactor⟩ := Conversion.exists_of_resolveSegments_eq_error hraw
    rw [Unit.line?_of_conversion_eq_error hfactor] at hn
    cases hn
  · obtain ⟨line, hx, hquotes⟩ := quotes_of_readLines_eq_error he hn
    obtain ⟨hpos, hline⟩ := List.mk_mem_zipIdx_iff_le_and_getElem?_sub.mp hx
    obtain ⟨raw, hraw, hresolve⟩ := getElem?_of_mapM_eq_ok hls hline
    have hlt := (List.getElem?_eq_some_iff.mp hraw).1
    exact ⟨hpos, by omega, raw, line, hraw, hresolve, (scope?_eq hls).symm ▸ hquotes⟩

/-- A source whose lines pass the checks fails with the first reading that does. -/
theorem ofSource_of_failure? {units : Unit.Table} {source : Text} {s : Scope} (text : Text)
    (fault : Fault) (htags : (Conversion.resolve units.conversion source).toOption = some text)
    (hscope : Scope.ofDefinitions (Scope.definitions text) = .ok s)
    (hcheck : ∀ x ∈ numberedLines text, defines x.1 = false →
      (s.checkLine x.2 x.1).toOption = some ())
    (hread : failure? (readings (rewritten s) (numberedLines text)) = some fault) :
    ofSource units source = .error (.source fault) := by
  have hlines : (lines source).mapM (Conversion.resolve units.conversion) = .ok (lines text) := by
    rw [← (Conversion.linewise_resolve units.conversion).map_lines source, eq_ok_of_toOption htags]
    rfl
  have hchecks := forM_checkLine_eq_ok.mpr fun line n hx hdefines =>
    eq_ok_of_toOption (hcheck (line, n) hx hdefines)
  refine mapError_eq_error.mpr ⟨fault, ?_, rfl⟩
  rw [resolve_eq, hlines, ok_bind]
  refine bind_eq_error.mpr (.inr ⟨s, hscope, bind_eq_error.mpr (.inr ⟨(), hchecks, ?_⟩)⟩)
  exact bind_eq_error.mpr (.inl (eq_error_of_failure? hread))

/-- For instance a bound without its closing bracket, two lines behind a parameter in it. -/
theorem exists_line_of_fault_keep :
    ofSource ⟨[]⟩ "L: 5\r\n\r\n keep x on [0, L\r\n" = .error (.source (.directive 3
      "keep x on [0, (5)" "expected 'keep <variable> on [<low>, <high>]'")) ∧
    ∃ raw line, (lines "L: 5\r\n\r\n keep x on [0, L\r\n")[2]? = some raw ∧
      Conversion.resolve (Unit.Table.mk []).conversion raw = .ok line ∧
      Quotes (scope? ⟨[]⟩ "L: 5\r\n\r\n keep x on [0, L\r\n") line (.directive 3
        "keep x on [0, (5)" "expected 'keep <variable> on [<low>, <high>]'") := by
  have hscope : Scope.ofDefinitions [⟨1, "L: 5", "L", "5"⟩] =
      .ok (Scope.empty.push ⟨"L", 5, "5", 1⟩) :=
    Scope.ofDefinitions_num (by decide) (by decide +kernel) (eq_ok_of_toOption (by decide +kernel))
      (by decide +kernel)
  have htags : (Conversion.resolve (Unit.Table.mk []).conversion
      "L: 5\r\n\r\n keep x on [0, L\r\n").toOption =
        some "L: 5\r\n\r\n keep x on [0, L\r\n" := by
    decide +kernel
  have h := ofSource_of_failure? "L: 5\r\n\r\n keep x on [0, L\r\n"
    (.directive 3 "keep x on [0, (5)" "expected 'keep <variable> on [<low>, <high>]'") htags hscope
    (by decide +kernel) (by decide +kernel)
  exact ⟨h, (exists_line_of_fault h rfl).2.2⟩

end Problem
end Equate
