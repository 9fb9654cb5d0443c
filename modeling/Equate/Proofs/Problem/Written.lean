import Equate.Proofs.Directive.Written
import Equate.Proofs.Name.Map
import Equate.Proofs.Parameter.Redefinition
import Equate.Proofs.Problem.SolverReady
import Equate.Proofs.Problem.WellFormed

/-!
# Systems written as sources

A system with finite numbers can be written as a source again: its parameters, a guess for
each unknown, the bounds and the equations, one on a line. Every line is read by its own
pass and left alone by the others, and the source has the same system again, with the
parameters on the first lines. The one check that an equation has not passed for certain is
that for names against numbers. Where an equation fails it, so does the whole source.
-/
namespace Equate.Problem
open Text Success

/-- A line of a source that is written from a system. -/
inductive SourceLine where
  | definition (name expression : Text)
  | guess (name : Text) (value : Float)
  | keep (name : Text) (bound : Bound)
  | equation (e : Text)

namespace SourceLine

/-- The line as it is written. -/
def text : SourceLine → Text
  | definition name expression => name ++ ": " ++ expression
  | guess name value => Directive.guessLine name value
  | keep name bound => Directive.keepLine name bound
  | equation e => e

/-- What a definition says. -/
def definition? : SourceLine → Option (Text × Text)
  | definition name expression => some (name, expression)
  | _ => none

/-- The guess that a line gives. -/
def guess? : SourceLine → Option (Text × Float)
  | guess name value => some (name, value)
  | _ => none

/-- The bound that a line gives. -/
def keep? : SourceLine → Option (Text × Bound)
  | keep name bound => some (name, bound)
  | _ => none

/-- The equation on a line. -/
def equation? : SourceLine → Option Text
  | equation e => some e
  | _ => none

/-- The statement that is read from a line with a number. -/
def statement (n : Nat) : SourceLine → Statement
  | definition .. => .other
  | guess name value => .guess ⟨n, name, value⟩
  | keep name bound => .keep ⟨n, name, bound⟩
  | equation e => .equation e

/-- What a line is about agrees with a scope, and it has nothing that would be read as
something else. -/
def Fits (s : Scope) : SourceLine → Prop
  | definition name expression => Name.isIdentifier name = true ∧ trim expression = expression ∧
      '\n' ∉ expression ∧ ¬ Conversion.HasTag expression
  | guess name value => Name.isIdentifier name = true ∧ s.value? name = none ∧ value.isFinite = true
  | keep name bound => Name.isIdentifier name = true ∧ s.value? name = none ∧
      bound.low.isFinite = true ∧ bound.high.isFinite = true ∧ bound.low ≤ bound.high
  | equation e => Settled (s.parameters.map Parameter.name) e

end SourceLine

/-- The lines that a system is written as. -/
def sourceLines (p : Problem) : List SourceLine :=
  p.parameters.map (fun q => .definition q.name q.expression) ++
    p.guesses.toList.map (fun (name, value) => .guess name value) ++
    p.bounds.toList.map (fun (name, bound) => .keep name bound) ++
    p.equations.map .equation

/-- A system written as a source. -/
def toSource (p : Problem) : Text := unlines (p.sourceLines.map SourceLine.text)

/-! ## Lines as texts -/

namespace SourceLine
variable {s : Scope} {l : SourceLine}

theorem not_mem_of_all {t : Text} (h : t.all Directive.isWritten = true) {c : Char}
    (hc : Directive.isWritten c = false) : c ∉ t := by
  intro hmem
  rw [List.all_eq_true.mp h c hmem] at hc
  cases hc

theorem getLast?_ne_of_trim {t : Text} (h : trim t = t) : t.getLast? ≠ some '\r' := by
  intro hlast
  rw [← h] at hlast
  exact absurd (isBlank_of_getLast?_trim hlast) (by decide)

/-- A line is not empty and has no line end. -/
theorem Fits.line (h : l.Fits s) : l.text ≠ [] ∧ '\n' ∉ l.text ∧ l.text.getLast? ≠ some '\r' := by
  have hwritten : ∀ {t : Text}, t ≠ [] → t.all Directive.isWritten = true →
      t ≠ [] ∧ '\n' ∉ t ∧ t.getLast? ≠ some '\r' := by
    intro t hne hall
    refine ⟨hne, not_mem_of_all hall (by decide), fun hlast => ?_⟩
    exact not_mem_of_all hall (by decide) (List.mem_of_getLast? hlast)
  cases l with
  | definition name expression =>
    obtain ⟨hname, htrim, hnewline, -⟩ := h
    have hnewline' : '\n' ∉ name := Name.not_mem_of_isIdentifier hname (by decide)
    refine ⟨by simp [text], by simp [text, hnewline, hnewline'], ?_⟩
    rw [text, List.getLast?_append]
    cases hlast : expression.getLast? with
    | none => simp
    | some c =>
      rw [Option.some_or, ← hlast]
      exact getLast?_ne_of_trim htrim
  | guess name value => exact hwritten (List.cons_ne_nil _ _) (Directive.all_guessLine h.1 h.2.2)
  | keep name bound =>
    exact hwritten (List.cons_ne_nil _ _) (Directive.all_keepLine h.1 h.2.2.1 h.2.2.2.1)
  | equation e =>
    refine ⟨?_, h.oneLine, getLast?_ne_of_trim h.trimmed⟩
    rintro rfl
    obtain ⟨left, right, heq, -⟩ := h.balanced
    exact absurd heq.symm (by simp)

theorem Fits.not_hasTag (h : l.Fits s) : ¬ Conversion.HasTag l.text := by
  cases l with
  | definition name expression =>
    obtain ⟨hname, -, -, htags⟩ := h
    rintro ⟨u, hu, hpart⟩
    obtain ⟨body, rfl⟩ := hu.exists_cons
    refine htags ⟨_, hu, infix_of_infix_append ?_ hpart⟩
    have hopen : '[' ∉ name := Name.not_mem_of_isIdentifier hname (by decide)
    simp [hopen]
  | guess name value =>
    exact Conversion.not_hasTag_of_not_mem
      (not_mem_of_all (Directive.all_guessLine h.1 h.2.2) (by decide))
  | keep name bound =>
    exact Conversion.not_hasTag_of_not_mem
      (not_mem_of_all (Directive.all_keepLine h.1 h.2.2.1 h.2.2.2.1) (by decide))
  | equation e => exact Conversion.tags_eq_nil_iff.mp h.tagless

/-- The name and the expression of a definition are cut apart again. -/
theorem splitAt?_definition {name expression : Text} (hname : Name.isIdentifier name = true) :
    splitAt? ':' (definition name expression).text = some (name, ' ' :: expression) := by
  rw [text, List.append_assoc]
  exact splitAt?_append (Name.not_mem_of_isIdentifier hname (by decide)) _

/-- No other line has a colon. -/
theorem Fits.not_mem_colon (h : l.Fits s) (hl : l.definition? = none) : ':' ∉ l.text := by
  cases l with
  | definition name expression => cases hl
  | guess name value => exact not_mem_of_all (Directive.all_guessLine h.1 h.2.2) (by decide)
  | keep name bound =>
    exact not_mem_of_all (Directive.all_keepLine h.1 h.2.2.1 h.2.2.2.1) (by decide)
  | equation e => exact h.undefining

theorem Fits.definition?_text (h : l.Fits s) (n : Nat) :
    Problem.definition? l.text n =
      l.definition?.map fun (name, expression) => ⟨n, trim l.text, name, expression⟩ := by
  unfold Problem.definition?
  cases hl : l.definition? with
  | none => rw [splitAt?_of_not_mem (h.not_mem_colon hl)]; rfl
  | some parts =>
    cases l with
    | definition name expression =>
      cases hl
      obtain ⟨hname, htrim, -, -⟩ := h
      have hstart : trim name = name := by
        refine trim_eq_self (fun c rest heq => ?_) fun c hlast => ?_
        · exact Directive.isBlank_of_isContinue
            (Name.isContinue_of_isIdentifier hname (heq ▸ List.mem_cons_self))
        · exact Directive.isBlank_of_isContinue
            (Name.isContinue_of_isIdentifier hname (List.mem_of_getLast? hlast))
      have hexpression : trim (' ' :: expression) = expression :=
        (rfl : trim (' ' :: expression) = trim expression).trans htrim
      rw [splitAt?_definition hname, Option.map_some]
      show some (Definition.mk n _ (trim name) (trim (' ' :: expression))) = _
      rw [hstart, hexpression]
      rfl
    | guess | keep | equation => cases hl

/-! ## Lines as statements -/

theorem checkLine_of_target? {line : Text} {name : Text} {kind : Directive.Kind} (h : s.Valid)
    (hkind : Directive.kind? line = some kind) (htarget : Directive.target? line = some name)
    (hname : s.value? name = none) (n : Nat) : s.checkLine n line = .ok () := by
  have hcontains : s.contains name = false := by
    rw [← Bool.not_eq_true, h.contains_iff, ← h.value?_eq_none]
    exact hname
  rw [Scope.checkLine, hkind, Option.isSome_some, if_pos rfl, checkDirective_eq_ok, htarget]
  rintro target ⟨⟩
  exact hcontains

/-- Nothing is replaced in a line that is no definition. -/
theorem Fits.substitute_text (h : l.Fits s) (hs : s.Valid) (hl : l.definition? = none) :
    s.substitute l.text = l.text := by
  have hwords : ∀ word ∈ Name.keywords, (s.value? word).map Scope.valueText = none := by
    have hlower : ∀ word ∈ Name.keywords, word.map Char.toLower ∈ Name.keywords := by decide +kernel
    intro word hword
    rw [hs.value?_eq_none_of_keyword (hlower word hword), Option.map_none]
  have hnone : ∀ {name}, s.value? name = none → (s.value? name).map Scope.valueText = none := by
    intro name hname
    rw [hname, Option.map_none]
  cases l with
  | definition name expression => cases hl
  | guess name value => exact Directive.substitute_guessLine h.1 hwords (hnone h.2.1) h.2.2
  | keep name bound =>
    exact Directive.substitute_keepLine h.1 hwords (hnone h.2.1) h.2.2.1 h.2.2.2.1
  | equation e =>
    refine Name.substitute_eq_self fun word glued hmem => hnone ?_
    rw [hs.value?_eq_none]
    exact h.unparametrized word glued hmem

/-- An equation among the lines passes the check if no name stands against a number in it. -/
theorem checkLine_equation {e : Text} (h : Settled (s.parameters.map Parameter.name) e) (hs : s.Valid)
    (n : Nat) : s.checkLine n e = .ok () ↔ Name.gluedName? e = none := by
  rw [Scope.checkLine, h.undirected, h.balanced.isCandidate, Option.isSome_none, if_neg Bool.false_ne_true,
    if_pos rfl, checkEquation_eq_ok]
  refine and_iff_left ?_
  cases hnames : Name.identifiers e with
  | nil => exact .inl rfl
  | cons first rest =>
    -- The first of the names is that of no parameter.
    have hfirst : s.contains first = false := by
      have hmem : first ∈ Name.identifiers e := by
        rw [hnames]
        exact List.mem_cons_self
      obtain ⟨glued, hpiece⟩ := Name.exists_name_of_mem_named hmem
      rw [← Bool.not_eq_true, hs.contains_iff]
      exact h.unparametrized first glued hpiece
    right
    rw [List.all_cons, hfirst, Bool.false_and]

/-- A line with a directive is read as it stands. -/
theorem Fits.statement_of_kind (h : l.Fits s) (hs : s.Valid) (hl : l.definition? = none) {name : Text}
    {kind : Directive.Kind} (hkind : Directive.kind? l.text = some kind)
    (htarget : Directive.target? l.text = some name) (hname : s.value? name = none) (n : Nat) :
    Problem.statement s l.text n = readStatement l.text n := by
  rw [Problem.statement, defines_eq_false_iff.mpr (h.not_mem_colon hl), if_neg Bool.false_ne_true,
    checkLine_of_target? hs hkind htarget hname, ok_bind, h.substitute_text hs hl]

theorem readStatement_equation {names : List Text} {e : Text} (h : Settled names e) (n : Nat) :
    readStatement e n = .ok (.equation e) := by
  rw [readStatement, h.undirected]
  dsimp only
  rw [h.balanced.isCandidate, if_pos rfl, Equation.read, h.trimmed,
    Equation.cause?_eq_none_iff.mpr h.balanced]
  rfl

theorem statement_equation {e : Text} (h : Settled (s.parameters.map Parameter.name) e) (hs : s.Valid)
    (n : Nat) {st : Statement} :
    Problem.statement s e n = .ok st ↔ Name.gluedName? e = none ∧ st = .equation e := by
  have hsubstitute : s.substitute e = e :=
    Fits.substitute_text (show (SourceLine.equation e).Fits s from h) hs rfl
  rw [Problem.statement, defines_eq_false_iff.mpr h.undefining, if_neg Bool.false_ne_true, hsubstitute,
    readStatement_equation h n, bind_eq_ok, ← checkLine_equation h hs n]
  constructor
  · rintro ⟨⟨⟩, hok, h⟩
    exact ⟨hok, (Except.ok.inj h).symm⟩
  · rintro ⟨hok, rfl⟩
    exact ⟨(), hok, rfl⟩

/-- Each line is the statement that it was written for, except that an equation with a name
against a number is refused. -/
theorem Fits.statement_text (h : l.Fits s) (hs : s.Valid) (n : Nat) {st : Statement} :
    Problem.statement s l.text n = .ok st ↔
      (∀ e, l.equation? = some e → Name.gluedName? e = none) ∧ st = l.statement n := by
  cases l with
  | definition name expression =>
    have hdefines : defines (definition name expression).text = true := by
      rw [defines, ← isSome_splitAt?, splitAt?_definition h.1]
      rfl
    rw [Problem.statement, hdefines, if_pos rfl]
    simp [equation?, statement, eq_comm]
  | guess name value =>
    have hread := h.statement_of_kind hs rfl (Directive.kind?_guessLine name value)
      (Directive.target?_guessLine h.1 h.2.2) h.2.1 n
    have hguess : readStatement (guess name value).text n = .ok (.guess ⟨n, name, value⟩) := by
      rw [readStatement, text, Directive.kind?_guessLine]
      exact map_eq_ok.mpr ⟨_, Directive.readGuess_guessLine h.1 h.2.2 n, rfl⟩
    rw [hread, hguess]
    simp [equation?, statement, eq_comm]
  | keep name bound =>
    have hread := h.statement_of_kind hs rfl (Directive.kind?_keepLine name bound)
      (Directive.target?_keepLine h.1 h.2.2.1 h.2.2.2.1) h.2.1 n
    have hkeep : readStatement (keep name bound).text n = .ok (.keep ⟨n, name, bound⟩) := by
      rw [readStatement, text, Directive.kind?_keepLine]
      exact map_eq_ok.mpr
        ⟨_, Directive.readKeep_keepLine h.1 h.2.2.1 h.2.2.2.1 h.2.2.2.2 n, rfl⟩
    rw [hread, hkeep]
    simp [equation?, statement, eq_comm]
  | equation e =>
    simpa [equation?, statement, text] using statement_equation h hs n

/-- Fitting is a matter of names and values. -/
theorem fits_congr {s' : Scope} (hvalue : s'.value? = s.value?)
    (hnames : s'.parameters.map Parameter.name = s.parameters.map Parameter.name) :
    l.Fits s' ↔ l.Fits s := by
  cases l <;> simp only [Fits, hvalue, hnames]

end SourceLine

/-! ## All lines together -/

/-- What a line says of itself alone does not depend on its number. -/
theorem filterMap_statements {α : Type} (ls : List SourceLine) (part? : Statement → Option α)
    (own? : SourceLine → Option α) (h : ∀ l n, part? (l.statement n) = own? l) :
    ((ls.zipIdx 1).map fun x => x.1.statement x.2).filterMap part? = ls.filterMap own? := by
  rw [List.filterMap_map]
  calc
    _ = (ls.zipIdx 1).filterMap (own? ∘ Prod.fst) := List.filterMap_congr fun x _ => h x.1 x.2
    _ = ls.filterMap own? := by rw [← List.filterMap_map, List.zipIdx_map_fst]

section
variable {ls : List SourceLine} {s : Scope} (hs : s.Valid) (h : ∀ l ∈ ls, l.Fits s)
include h

theorem definitions_map_text :
    ((ls.map SourceLine.text).zipIdx 1).filterMap (fun (line, n) => Problem.definition? line n) =
      (ls.zipIdx 1).filterMap fun (l, n) =>
        l.definition?.map fun (name, expression) => ⟨n, trim l.text, name, expression⟩ := by
  rw [List.zipIdx_map, List.filterMap_map]
  refine List.filterMap_congr fun (l, n) hmem => ?_
  exact (h l (List.fst_mem_of_mem_zipIdx hmem)).definition?_text n

include hs

/-- The lines are read as the statements that they were written for, if no equation among them
has a name against a number. -/
theorem mapM_statement_map_text (sts : List Statement) :
    ((ls.map SourceLine.text).zipIdx 1).mapM (fun (line, n) => statement s line n) = .ok sts ↔
      (∀ e ∈ ls.filterMap SourceLine.equation?, Name.gluedName? e = none) ∧
        sts = (ls.zipIdx 1).map fun x => x.1.statement x.2 := by
  have hglued : (∀ x ∈ ls.zipIdx 1, ∀ e, x.1.equation? = some e → Name.gluedName? e = none) ↔
      ∀ e ∈ ls.filterMap SourceLine.equation?, Name.gluedName? e = none := by
    have hfst : ∀ P : SourceLine → Prop, (∀ x ∈ ls.zipIdx 1, P x.1) ↔ ∀ l ∈ ls, P l := by
      intro P
      rw [← List.forall_mem_map (f := Prod.fst), List.zipIdx_map_fst]
    rw [hfst fun l => ∀ e, l.equation? = some e → Name.gluedName? e = none]
    constructor
    · intro hall e he
      obtain ⟨l, hl, hequation⟩ := List.mem_filterMap.mp he
      exact hall l hl e hequation
    · intro hall l hl e hequation
      exact hall e (List.mem_filterMap.mpr ⟨l, hl, hequation⟩)
  rw [List.zipIdx_map, List.mapM_map, ← hglued]
  exact mapM_eq_ok_iff fun x hx st =>
    (h x.1 (List.fst_mem_of_mem_zipIdx hx)).statement_text hs x.2

/-- The lines together have the system that each of them says its part of, if no equation has
a name against a number, and none otherwise. -/
theorem compileLines_map_text (hscope : Scope.ofDefinitions (((ls.map SourceLine.text).zipIdx 1).filterMap
      fun (line, n) => Problem.definition? line n) = .ok s) (result : Problem × List Warning) :
    compileLines (ls.map SourceLine.text) = .ok result ↔
      (∀ e ∈ ls.filterMap SourceLine.equation?, Name.gluedName? e = none) ∧
        result = collect (ls.filterMap SourceLine.equation?) (.ofEntries (ls.filterMap SourceLine.guess?))
          (.ofEntries (ls.filterMap SourceLine.keep?)) s.parameters := by
  have hequations := filterMap_statements ls Statement.equation? SourceLine.equation?
    fun l n => by cases l <;> rfl
  have hguesses := filterMap_statements ls (fun st => st.guess?.map fun g => (g.name, g.value))
    SourceLine.guess? fun l n => by cases l <;> rfl
  have hkeeps := filterMap_statements ls (fun st => st.keep?.map fun k => (k.name, k.bound))
    SourceLine.keep? fun l n => by cases l <;> rfl
  rw [← List.map_filterMap] at hguesses hkeeps
  unfold compileLines
  rw [hscope, ok_bind, bind_eq_ok]
  simp only [mapM_statement_map_text hs h]
  constructor
  · rintro ⟨sts, ⟨hall, rfl⟩, hresult⟩
    rw [hequations, hguesses, hkeeps] at hresult
    exact ⟨hall, (Except.ok.inj hresult).symm⟩
  · rintro ⟨hall, rfl⟩
    refine ⟨_, ⟨hall, rfl⟩, ?_⟩
    rw [hequations, hguesses, hkeeps]
    rfl

end

/-! ## Systems of sources -/

theorem filterMap_sourceLines (p : Problem) :
    p.sourceLines.filterMap SourceLine.definition? = p.parameters.map (fun q => (q.name, q.expression)) ∧
      p.sourceLines.filterMap SourceLine.guess? = p.guesses.toList ∧
      p.sourceLines.filterMap SourceLine.keep? = p.bounds.toList ∧
      p.sourceLines.filterMap SourceLine.equation? = p.equations := by
  have hnone : ∀ {α β : Type} (xs : List α), xs.filterMap (fun _ => (none : Option β)) = [] :=
    fun xs => List.filterMap_eq_nil_iff.mpr fun _ _ => rfl
  have hsome : ∀ {α : Type} (xs : List α), xs.filterMap (fun x => some x) = xs :=
    fun xs => List.filterMap_some
  unfold sourceLines
  simp only [List.filterMap_append, List.filterMap_map]
  refine ⟨?_, ?_, ?_, ?_⟩
  · have hmap : p.parameters.filterMap (fun q => some (q.name, q.expression)) =
        p.parameters.map fun q => (q.name, q.expression) := congrFun List.filterMap_eq_map _
    simp [Function.comp_def, SourceLine.definition?, hnone, hmap]
  · simp [Function.comp_def, SourceLine.guess?, hnone, hsome]
  · simp [Function.comp_def, SourceLine.keep?, hnone, hsome]
  · simp [Function.comp_def, SourceLine.equation?, hnone, hsome]

/-- The definitions stand on the first lines. -/
theorem map_line_sourceLines (p : Problem) :
    ((p.sourceLines.zipIdx 1).filterMap fun (l, n) =>
        l.definition?.map fun (name, expression) =>
          (⟨n, trim l.text, name, expression⟩ : Definition)).map Definition.line =
      List.range' 1 p.parameters.length := by
  have hline : ∀ x : SourceLine × Nat, (x.1.definition?.map fun (name, expression) =>
      (⟨x.2, trim x.1.text, name, expression⟩ : Definition)).map Definition.line =
        x.1.definition?.map fun _ => x.2 := by
    rintro ⟨l, n⟩
    cases l <;> rfl
  have hrest : ∀ (ls : List SourceLine) k, (∀ l ∈ ls, l.definition? = none) →
      (ls.zipIdx k).filterMap (fun x => x.1.definition?.map fun _ => x.2) = [] := by
    intro ls k hls
    refine List.filterMap_eq_nil_iff.mpr fun x hx => ?_
    rw [hls x.1 (List.fst_mem_of_mem_zipIdx hx), Option.map_none]
  have hfirst : ∀ (ps : List Parameter) k, ((ps.map fun q : Parameter =>
      SourceLine.definition q.name q.expression).zipIdx k).filterMap
        (fun x => x.1.definition?.map fun _ => x.2) = List.range' k ps.length := by
    intro ps
    induction ps with
    | nil => exact fun k => rfl
    | cons q ps ih =>
      intro k
      rw [List.map_cons, List.zipIdx_cons, List.length_cons, List.range'_succ]
      exact congrArg (k :: ·) (ih (k + 1))
  rw [List.map_filterMap]
  simp only [hline]
  rw [sourceLines, List.append_assoc, List.append_assoc, List.zipIdx_append, List.filterMap_append,
    hfirst, hrest, List.append_nil]
  intro l hl
  simp only [List.mem_append, List.mem_map, Prod.exists] at hl
  rcases hl with ⟨name, value, -, rfl⟩ | ⟨name, b, -, rfl⟩ | ⟨e, -, rfl⟩ <;> rfl

section
variable {text : Text} {s : Scope} {r : Readings} (h : Compiles (lines text) s r)
include h

/-- The expression of a parameter is a part of a line, without blanks around it. -/
theorem Compiles.expression {q : Parameter} (hq : q ∈ s.parameters) :
    trim q.expression = q.expression ∧ ∃ line ∈ lines text, q.expression <:+: line := by
  have hmem : (q.name, q.expression) ∈ s.parameters.map fun q => (q.name, q.expression) :=
    List.mem_map.mpr ⟨q, hq, rfl⟩
  rw [Scope.map_ofDefinitions h.scope] at hmem
  obtain ⟨d, hd, heq⟩ := List.mem_map.mp hmem
  obtain ⟨⟨line, n⟩, hx, hdefinition⟩ := List.mem_filterMap.mp hd
  obtain ⟨⟨a, b⟩, hparts, rfl⟩ := Option.map_eq_some_iff.mp hdefinition
  have hexpression : q.expression = trim b := (congrArg Prod.snd heq).symm
  rw [hexpression]
  refine ⟨trim_trim b, line, List.fst_mem_of_mem_zipIdx hx, (trim_isInfix b).trans ?_⟩
  rw [eq_append_of_splitAt? hparts]
  exact ((List.suffix_cons _ b).trans (List.suffix_append a _)).isInfix

/-- Every line that a system with finite numbers is written as fits its scope. -/
theorem Compiles.fits (htags : ¬ Conversion.HasTag text)
    (hguesses : ∀ (name : Text) value, (r.collect s).1.guesses[name]? = some value →
      value.isFinite = true)
    (hbounds : ∀ (name : Text) b, (r.collect s).1.bounds[name]? = some b →
      b.low.isFinite = true ∧ b.high.isFinite = true) :
    ∀ l ∈ (r.collect s).1.sourceLines, l.Fits s := by
  have hwell := h.wellFormed
  have hunknown : ∀ name ∈ (r.collect s).1.unknowns,
      Name.isIdentifier name = true ∧ s.value? name = none := by
    intro name hname
    have hfresh : s.value? name = none := h.valid.value?_eq_none.mpr (hwell.disjoint name hname)
    obtain ⟨e, -, hmem⟩ := List.mem_flatMap.mp ((hwell.named name).mp hname)
    obtain ⟨glued, hpiece⟩ := Name.exists_name_of_mem_named hmem
    exact ⟨(Name.isIdentifier_of_mem_pieces hpiece).1, hfresh⟩
  intro l hl
  unfold sourceLines at hl
  simp only [List.mem_append, List.mem_map, Prod.exists] at hl
  rcases hl with ((⟨q, hq, rfl⟩ | ⟨name, value, hmem, rfl⟩) | ⟨name, b, hmem, rfl⟩) | ⟨e, he, rfl⟩
  · obtain ⟨htrim, line, hline, hpart⟩ := h.expression hq
    refine ⟨h.valid.identifier q hq, htrim, fun hnewline => ?_, fun htag => ?_⟩
    · exact newline_not_mem_of_mem_lines hline (hpart.subset hnewline)
    · exact htags (htag.of_isInfix (hpart.trans (infix_of_mem_lines hline)))
  · rw [Std.ExtTreeMap.mem_toList_iff_getElem?_eq_some] at hmem
    have hname : name ∈ (r.collect s).1.guesses :=
      Std.ExtTreeMap.mem_iff_isSome_getElem?.mpr (by rw [hmem]; rfl)
    obtain ⟨hidentifier, hfresh⟩ := hunknown name ((hwell.guessed name).mp hname)
    exact ⟨hidentifier, hfresh, hguesses name value hmem⟩
  · rw [Std.ExtTreeMap.mem_toList_iff_getElem?_eq_some] at hmem
    obtain ⟨hname, hle⟩ := hwell.bounded name b hmem
    obtain ⟨hidentifier, hfresh⟩ := hunknown name hname
    obtain ⟨hlow, hhigh⟩ := hbounds name b hmem
    exact ⟨hidentifier, hfresh, hlow, hhigh, hle⟩
  · have hequation : e ∈ r.equations := he
    rw [h.equations_eq] at hequation
    obtain ⟨line, hline, rfl⟩ := List.mem_map.mp hequation
    exact h.settled htags hline

end

/-- The entries of a system collect to the system. -/
theorem WellFormed.collect_entries {p : Problem} (h : p.WellFormed)
    (hunknowns : (p.equations.flatMap Name.identifiers).eraseDups = p.unknowns) (ps : List Parameter) :
    collect p.equations (.ofEntries p.guesses.toList) (.ofEntries p.bounds.toList) ps =
      ({ p with parameters := ps }, []) := by
  have hguesses : ∀ name ∈ p.guesses, p.unknowns.contains name = true :=
    fun name hname => List.contains_iff_mem.mpr ((h.guessed name).mp hname)
  have hbounds : ∀ name ∈ p.bounds, p.unknowns.contains name = true := by
    intro name hname
    obtain ⟨b, hb⟩ := Option.isSome_iff_exists.mp (Std.ExtTreeMap.mem_iff_isSome_getElem?.mp hname)
    exact List.contains_iff_mem.mpr (h.bounded name b hb).1
  have hunused : ∀ {α : Type} {m : NameMap α}, (∀ name ∈ m, p.unknowns.contains name = true) →
      unused m p.unknowns = [] := by
    intro α m hm
    refine List.filter_eq_nil_iff.mpr fun name hname => ?_
    rw [hm name (Std.ExtTreeMap.mem_keys.mp hname)]
    exact Bool.false_ne_true
  have hfilled : p.unknowns.foldl (fun m name => m.insertIfNew name defaultGuess) p.guesses =
      p.guesses := NameMap.foldl_insertIfNew_eq_self fun name => (h.guessed name).mpr
  unfold collect
  dsimp only
  rw [hunknowns, NameMap.ofEntries_toList, NameMap.ofEntries_toList, NameMap.filter_eq_self hguesses,
    NameMap.filter_eq_self hbounds, hfilled, hunused hguesses, hunused hbounds]
  rfl

/-- Two letters beyond ASCII are all that can hide a name against a number. -/
theorem Compiles.gluedName?_eq_none_of_not_mem {units : Unit.Table} {source text : Text} {s : Scope}
    {r : Readings} (h : Compiles (lines text) s r)
    (htext : Conversion.resolve units.conversion source = .ok text) (hlong : '\u017f' ∉ source)
    (hkelvin : '\u212a' ∉ source) : ∀ e ∈ r.equations, Name.gluedName? e = none := by
  have hfactor : ∀ {c : Char}, c.isAlpha = false → Number.isPlainChar c = false → c ≠ ' ' → c ≠ '*' →
      c ∉ source → c ∉ text := by
    intro c halpha hplain hblank hstar hsource hc
    rcases Conversion.mem_of_mem_resolve htext hc with hc | ⟨x, hc⟩
    · exact hsource hc
    · refine Conversion.not_mem_factorText hblank hstar (fun hc => ?_) hc
      rcases Number.isPlainChar_or_isAlpha_of_mem_plain hc with hc | hc
      · rw [hplain] at hc
        cases hc
      · rw [halpha] at hc
        cases hc
  intro e he
  rw [h.equations_eq] at he
  obtain ⟨line, hline, rfl⟩ := List.mem_map.mp he
  rw [h.valid.gluedName?_substitute_eq_none_iff]
  have hdirects : Directive.directs line = false := by
    rw [← Bool.not_eq_true]
    intro hdirects
    have hpart := infix_of_mem_lines (h.exists_read hline).choose_spec.1
    rcases h.mem_of_directs hline hdirects with hmem | hmem
    · exact hfactor (by decide) (by decide) (by decide) (by decide) hlong (hpart.subset hmem)
    · exact hfactor (by decide) (by decide) (by decide) (by decide) hkelvin (hpart.subset hmem)
  have hglued := Name.gluedName?_eq_none_iff.mp (h.gluedName?_eq_none hline hdirects)
  exact fun word hword => absurd hword (hglued word)

/-- A source without tags, taken line by line. -/
theorem ofSource_unlines {units : Unit.Table} {ls : List Text} {result : Problem × List Warning}
    (hlines : ∀ a ∈ ls, a ≠ [] ∧ '\n' ∉ a ∧ a.getLast? ≠ some '\r')
    (htags : ∀ a ∈ ls, ¬ Conversion.HasTag a) :
    ofSource units (unlines ls) = .ok result ↔ compileLines ls = .ok result := by
  have hmap := (Conversion.linewise_resolve units.conversion).map_lines (unlines ls)
  have hself : ls.mapM (Conversion.resolve units.conversion) = .ok ls :=
    mapM_eq_ok_self fun a ha => Conversion.resolve_of_not_hasTag (htags a ha)
  rw [lines_unlines hlines, hself] at hmap
  obtain ⟨text, htext, hsame⟩ := map_eq_ok.mp hmap
  rw [ofSource_eq_ok, compileLines_eq_ok]
  constructor
  · rintro ⟨text', s, r, htext', hcompiles, rfl⟩
    cases htext.symm.trans htext'
    rw [hsame] at hcompiles
    exact ⟨s, r, hcompiles, rfl⟩
  · rintro ⟨s, r, hcompiles, rfl⟩
    rw [← hsame] at hcompiles
    exact ⟨text, s, r, htext, hcompiles, rfl⟩

/-- The definitions among the lines of a system lead to its parameters again. -/
theorem exists_ofDefinitions_again {p : Problem} {s : Scope} {ds : List Definition}
    (h : Scope.ofDefinitions ds = .ok s) (hp : p.parameters = s.parameters)
    (hfits : ∀ l ∈ p.sourceLines, l.Fits s) :
    ∃ s', Scope.ofDefinitions (((p.sourceLines.map SourceLine.text).zipIdx 1).filterMap
        fun (line, n) => definition? line n) = .ok s' ∧
      s'.value? = s.value? ∧ s'.parameters = Scope.renumbered p.parameters := by
  have hreads : ∀ x : SourceLine × Nat, (x.1.definition?.map fun (name, expression) =>
      (⟨x.2, trim x.1.text, name, expression⟩ : Definition)).map Definition.unplaced =
        x.1.definition? := by
    rintro ⟨l, n⟩
    cases l <;> rfl
  rw [definitions_map_text hfits, hp]
  refine Scope.ofDefinitions_again h ?_ ?_
  · rw [List.map_filterMap]
    simp only [hreads]
    rw [filterMap_zipIdx, (filterMap_sourceLines p).1, hp]
  · rw [← hp]
    exact map_line_sourceLines p

/-- A system with finite guesses and bounds, written as a source, has the same equations,
unknowns, guesses, bounds and parameters again, whatever units there are, exactly if no
name stands against a number in its equations. Otherwise the source has no system. Only a
source with one of two letters beyond ASCII leads to such equations. -/
theorem ofSource_toSource {units : Unit.Table} (units' : Unit.Table) {source : Text} {p : Problem}
    {warnings : List Warning} (h : ofSource units source = .ok (p, warnings))
    (hguesses : ∀ (name : Text) value, p.guesses[name]? = some value → value.isFinite = true)
    (hbounds : ∀ (name : Text) b, p.bounds[name]? = some b →
      b.low.isFinite = true ∧ b.high.isFinite = true) :
    (∀ result, ofSource units' p.toSource = .ok result ↔
      (∀ e ∈ p.equations, Name.gluedName? e = none) ∧
        result = ({ p with parameters := Scope.renumbered p.parameters }, [])) ∧
    ('\u017f' ∉ source → '\u212a' ∉ source → ∀ e ∈ p.equations, Name.gluedName? e = none) := by
  obtain ⟨text, s, r, htext, hcompiles, heq⟩ := ofSource_eq_ok.mp h
  obtain rfl : p = (r.collect s).1 := congrArg Prod.fst heq
  have hfits := hcompiles.fits (Conversion.not_hasTag_of_resolve htext) hguesses hbounds
  refine ⟨fun result => ?_, hcompiles.gluedName?_eq_none_of_not_mem htext⟩
  obtain ⟨s', hs', hvalue, hparameters⟩ := exists_ofDefinitions_again hcompiles.scope rfl hfits
  have hnames : s'.parameters.map Parameter.name = s.parameters.map Parameter.name := by
    rw [hparameters]
    exact Scope.map_name_renumbered s.parameters
  have hfits' : ∀ l ∈ (r.collect s).1.sourceLines, l.Fits s' :=
    fun l hl => (SourceLine.fits_congr hvalue hnames).mpr (hfits l hl)
  have hcompile := compileLines_map_text (Scope.reachable_ofDefinitions hs').valid hfits' hs' result
  obtain ⟨-, hguesses', hkeeps', hequations'⟩ := filterMap_sourceLines (r.collect s).1
  rw [hguesses', hkeeps', hequations', hcompiles.wellFormed.collect_entries rfl, hparameters] at hcompile
  rw [toSource, ofSource_unlines, hcompile]
  · intro a ha
    obtain ⟨l, hl, rfl⟩ := List.mem_map.mp ha
    exact (hfits l hl).line
  · intro a ha
    obtain ⟨l, hl, rfl⟩ := List.mem_map.mp ha
    exact (hfits l hl).not_hasTag

/-- For instance the system of a fall over a height, with a parameter and a bound. -/
theorem ofSource_toSource_fall :
    ∃ p warnings, ofSource ⟨[]⟩ "g: 9.8\nkeep t on [0, 5]\ng * t = u" = .ok (p, warnings) ∧
      p.toSource = "g: 9.8\nguess 1 for t\nguess 1 for u\nkeep t on [0, 5]\n(9.8) * t = u" ∧
      ofSource ⟨[]⟩ p.toSource =
        .ok ({ p with parameters := Scope.renumbered p.parameters }, []) := by
  have hscope : Scope.ofDefinitions [⟨1, "g: 9.8", "g", "9.8"⟩] =
      .ok (Scope.empty.push ⟨"g", 9.8, "9.8", 1⟩) :=
    Scope.ofDefinitions_num (by decide) (by decide +kernel) (eq_ok_of_toOption (by decide +kernel))
      (by decide +kernel)
  have htags : (Conversion.resolve (Unit.Table.mk []).conversion
      "g: 9.8\nkeep t on [0, 5]\ng * t = u").toOption =
        some "g: 9.8\nkeep t on [0, 5]\ng * t = u" := by
    decide +kernel
  have h := ofSource_of_toOption "g: 9.8\nkeep t on [0, 5]\ng * t = u"
    ⟨[], [⟨2, "t", ⟨0, 5⟩⟩], ["(9.8) * t = u"]⟩ htags hscope (by decide +kernel)
    (by decide +kernel) (by decide +kernel) (by decide +kernel)
  refine ⟨_, _, h, by decide +kernel, ?_⟩
  have hguesses : ∀ x ∈ (Readings.collect ⟨[], [⟨2, "t", ⟨0, 5⟩⟩], ["(9.8) * t = u"]⟩
      (Scope.empty.push ⟨"g", 9.8, "9.8", 1⟩)).1.guesses.toList, x.2.isFinite = true := by
    decide +kernel
  have hbounds : ∀ x ∈ (Readings.collect ⟨[], [⟨2, "t", ⟨0, 5⟩⟩], ["(9.8) * t = u"]⟩
      (Scope.empty.push ⟨"g", 9.8, "9.8", 1⟩)).1.bounds.toList,
      x.2.low.isFinite = true ∧ x.2.high.isFinite = true := by
    decide +kernel
  have hagain := ofSource_toSource ⟨[]⟩ h
    (fun name value hvalue => hguesses (name, value)
      (Std.ExtTreeMap.mem_toList_iff_getElem?_eq_some.mpr hvalue))
    fun name b hb => hbounds (name, b) (Std.ExtTreeMap.mem_toList_iff_getElem?_eq_some.mpr hb)
  exact (hagain.1 _).mpr ⟨by decide +kernel, rfl⟩

/-- With a letter beyond ASCII an equation can come to be that is refused when it is read
again, here with a name against the number 3. -/
theorem ofSource_toSource_kelvin :
    ∃ p warnings, ofSource ⟨[]⟩ "eep: 1\n\u212aeep = 3x" = .ok (p, warnings) ∧
      (∀ x ∈ p.guesses.toList, x.2.isFinite = true) ∧ p.bounds.toList = [] ∧
      p.toSource = "eep: 1\nguess 1 for x\n\u212a(1) = 3x" ∧
      ∀ units result, ofSource units p.toSource ≠ .ok result := by
  have hscope : Scope.ofDefinitions [⟨1, "eep: 1", "eep", "1"⟩] =
      .ok (Scope.empty.push ⟨"eep", 1, "1", 1⟩) :=
    Scope.ofDefinitions_num (by decide) (by decide +kernel) (eq_ok_of_toOption (by decide +kernel))
      (by decide +kernel)
  have htags : (Conversion.resolve (Unit.Table.mk []).conversion "eep: 1\n\u212aeep = 3x").toOption =
      some "eep: 1\n\u212aeep = 3x" := by decide +kernel
  have h := ofSource_of_toOption "eep: 1\n\u212aeep = 3x" ⟨[], [], ["\u212a(1) = 3x"]⟩
    htags hscope (by decide +kernel) (by decide +kernel) (by decide +kernel) (by decide +kernel)
  have hsource : (Readings.collect ⟨[], [], ["\u212a(1) = 3x"]⟩
      (Scope.empty.push ⟨"eep", 1, "1", 1⟩)).1.toSource = "eep: 1\nguess 1 for x\n\u212a(1) = 3x" := by
    decide +kernel
  refine ⟨_, _, h, by decide +kernel, by decide +kernel, hsource, fun units result hagain => ?_⟩
  have hread := (congrArg (ofSource units) hsource).symm.trans hagain
  obtain ⟨text, s, r, htext, hcompiles, -⟩ := ofSource_eq_ok.mp hread
  have htagless : ¬ Conversion.HasTag "eep: 1\nguess 1 for x\n\u212a(1) = 3x" :=
    Conversion.not_hasTag_of_not_mem (by decide)
  cases (Conversion.resolve_of_not_hasTag htagless).symm.trans htext
  have hcheck := hcompiles.checked "\u212a(1) = 3x" 3 (by decide +kernel) (by decide +kernel)
  have hkind : Directive.kind? "\u212a(1) = 3x" = none := by decide +kernel
  have hglued : Name.gluedName? "\u212a(1) = 3x" = some ("x" : Text) := by decide +kernel
  have hcandidate : Equation.isCandidate "\u212a(1) = 3x" = true := by decide
  rw [Scope.checkLine, hkind, hcandidate, Option.isSome_none, if_neg Bool.false_ne_true, if_pos rfl,
    Scope.checkEquation, hglued] at hcheck
  cases hcheck

end Equate.Problem
