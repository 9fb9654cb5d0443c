import Equate.Proofs.Parameter.Redefinition
import Equate.Proofs.Problem.LineByLine

/-!
# What the lines of a source say

Once the scope of a source is known, what a line says does not depend on where it stands:
neither on its number nor on the lines around it. The system of a source is therefore that
of its scope and of the statements of its lines, in their order.
-/
namespace Equate.Problem
open Text Success

/-! ## Statements without their lines -/

namespace Statement

/-- The same statement on another line. -/
def onLine (n : Nat) : Statement → Statement
  | guess g => guess { g with line := n }
  | keep k => keep { k with line := n }
  | st => st

/-- The name and the value of a guess. -/
def guessed? (st : Statement) : Option (Text × Float) := st.guess?.map fun g => (g.name, g.value)

/-- The name and the ends of a bound. -/
def kept? (st : Statement) : Option (Text × Bound) := st.keep?.map fun k => (k.name, k.bound)

@[simp] theorem equation?_onLine (n : Nat) (st : Statement) : (st.onLine n).equation? = st.equation? := by
  cases st <;> rfl

@[simp] theorem guessed?_onLine (n : Nat) (st : Statement) : (st.onLine n).guessed? = st.guessed? := by
  cases st <;> rfl

@[simp] theorem kept?_onLine (n : Nat) (st : Statement) : (st.onLine n).kept? = st.kept? := by
  cases st <;> rfl

end Statement

/-- The system of statements in their order, with parameters. -/
def ofStatements (sts : List Statement) (ps : List Parameter) : Problem × List Warning :=
  collect (sts.filterMap Statement.equation?) (.ofEntries (sts.filterMap Statement.guessed?))
    (.ofEntries (sts.filterMap Statement.kept?)) ps

theorem ofStatements_eq (sts : List Statement) (ps : List Parameter) :
    ofStatements sts ps = collect (sts.filterMap Statement.equation?)
      (.ofEntries ((sts.filterMap Statement.guess?).map fun g => (g.name, g.value)))
      (.ofEntries ((sts.filterMap Statement.keep?).map fun k => (k.name, k.bound))) ps := by
  rw [List.map_filterMap, List.map_filterMap]
  rfl

theorem ofStatements_map_onLine (n : Nat) (sts : List Statement) (ps : List Parameter) :
    ofStatements (sts.map (Statement.onLine n)) ps = ofStatements sts ps := by
  have hsame : ∀ {α : Type} (f : Statement → Option α), (∀ st, f (st.onLine n) = f st) →
      (sts.map (Statement.onLine n)).filterMap f = sts.filterMap f := by
    intro α f hf
    rw [List.filterMap_map]
    exact congrArg (List.filterMap · sts) (funext hf)
  rw [ofStatements, hsame _ (Statement.equation?_onLine n), hsame _ (Statement.guessed?_onLine n),
    hsame _ (Statement.kept?_onLine n)]
  rfl

section
variable {s : Scope} {line : Text} {m : Nat} {st : Statement}

theorem checkLine_onLine (h : s.checkLine m line = .ok ()) (n : Nat) : s.checkLine n line = .ok () := by
  unfold Scope.checkLine at h ⊢
  split
  · next hkind =>
    rw [if_pos hkind, checkDirective_eq_ok] at h
    exact checkDirective_eq_ok.mpr h
  · next hkind =>
    rw [if_neg hkind] at h
    split
    · next hcandidate =>
      rw [if_pos hcandidate, checkEquation_eq_ok] at h
      exact checkEquation_eq_ok.mpr h
    · rfl

theorem readStatement_onLine (h : readStatement line m = .ok st) (n : Nat) :
    readStatement line n = .ok (st.onLine n) := by
  rcases kind?_eq_of_readStatement h with ⟨g, hkind, hg, rfl⟩ | ⟨k, hkind, hk, rfl⟩ |
    ⟨e, hkind, hcandidate, he, rfl⟩ | ⟨hkind, hcandidate, rfl⟩ <;> rw [readStatement, hkind]
  · obtain ⟨number, name, value, hparts, hvalue, rfl⟩ := Directive.readGuess_eq_ok.mp hg
    exact map_eq_ok.mpr ⟨_, Directive.readGuess_eq_ok.mpr
      ⟨number, name, value, hparts, hvalue, rfl⟩, rfl⟩
  · obtain ⟨name, lowText, highText, low, high, hparts, hlow, hhigh, hle, rfl⟩ :=
      Directive.readKeep_eq_ok.mp hk
    exact map_eq_ok.mpr ⟨_, Directive.readKeep_eq_ok.mpr
      ⟨name, lowText, highText, low, high, hparts, hlow, hhigh, hle, rfl⟩, rfl⟩
  · have hread : Equation.read line n = .ok e := by
      unfold Equation.read at he ⊢
      cases hcause : Equation.cause? (trim line) with
      | some cause => rw [hcause] at he; cases he
      | none => rw [hcause] at he; exact he
    exact (if_pos hcandidate).trans (map_eq_ok.mpr ⟨e, hread, rfl⟩)
  · exact if_neg (Bool.not_eq_true _ ▸ hcandidate)

/-- What a line says on one line, it says on every other. -/
theorem statement_onLine (h : statement s line m = .ok st) (n : Nat) :
    statement s line n = .ok (st.onLine n) := by
  obtain ⟨hcheck, hread⟩ := statement_eq_ok.mp h
  exact statement_eq_ok.mpr ⟨fun hdefines => checkLine_onLine (hcheck hdefines) n,
    readStatement_onLine hread n⟩

end

/-- What a line says in a scope, if it can be read there. -/
def reading? (s : Scope) (line : Text) : Option Statement := (statement s line 0).toOption

theorem reading?_eq_some {s : Scope} {line : Text} {st : Statement} :
    reading? s line = some st ↔ statement s line 0 = .ok st := by
  unfold reading?
  cases statement s line 0 <;> simp [Except.toOption]

theorem reading?_of_statement {s : Scope} {line : Text} {n : Nat} {st : Statement}
    (h : statement s line n = .ok st) : reading? s line = some (st.onLine 0) :=
  reading?_eq_some.mpr (statement_onLine h 0)

/-- The name and the expression of a line with a colon. -/
def defined? (line : Text) : Option (Text × Text) := (splitAt? ':' line).map (Prod.map trim trim)

theorem map_unplaced_definition? (line : Text) (n : Nat) :
    (definition? line n).map Definition.unplaced = defined? line := by
  rw [definition?, Option.map_map]
  rfl

theorem map_unplaced_definitions (ls : List Text) (k : Nat) :
    ((ls.zipIdx k).filterMap fun (line, n) => definition? line n).map Definition.unplaced =
      ls.filterMap defined? := by
  rw [List.map_filterMap]
  simp only [map_unplaced_definition?]
  exact filterMap_zipIdx defined? ls k

/-- Lines have the system of what they say in the scope of their definitions. -/
theorem compileLines_eq_ok_iff {ls : List Text} {result : Problem × List Warning} :
    compileLines ls = .ok result ↔ ∃ s,
      Scope.ofDefinitions ((ls.zipIdx 1).filterMap fun (line, n) => definition? line n) = .ok s ∧
      (∀ line ∈ ls, (reading? s line).isSome) ∧
      result = ofStatements (ls.filterMap (reading? s)) s.parameters := by
  have hread : ∀ {s sts}, (ls.zipIdx 1).mapM (fun (line, n) => statement s line n) = .ok sts →
      sts.map (Statement.onLine 0) = ls.filterMap (reading? s) := by
    intro s sts hsts
    rw [← filterMap_zipIdx (reading? s) ls 1]
    exact map_eq_filterMap_of_mapM _ _ (fun _ _ hst => reading?_of_statement hst) hsts
  rw [compileLines, bind_eq_ok]
  refine exists_congr fun s => and_congr_right fun _ => ?_
  rw [bind_eq_ok]
  constructor
  · rintro ⟨sts, hsts, h⟩
    refine ⟨fun line hline => ?_, ?_⟩
    · rw [← List.zipIdx_map_fst 1 ls, List.mem_map] at hline
      obtain ⟨x, hx, rfl⟩ := hline
      obtain ⟨st, hst⟩ := exists_mapM_eq_ok.mp ⟨sts, hsts⟩ x hx
      rw [reading?_of_statement hst]
      rfl
    · rw [← hread hsts, ofStatements_map_onLine, ofStatements_eq]
      exact (Except.ok.inj h).symm
  · rintro ⟨hall, rfl⟩
    obtain ⟨sts, hsts⟩ := exists_mapM_eq_ok.mpr fun (x : Text × Nat) (hx : x ∈ ls.zipIdx 1) => by
      obtain ⟨st, hst⟩ := Option.isSome_iff_exists.mp (hall x.1 (List.fst_mem_of_mem_zipIdx hx))
      exact ⟨_, statement_onLine (reading?_eq_some.mp hst) x.2⟩
    refine ⟨sts, hsts, ?_⟩
    rw [← hread hsts, ofStatements_map_onLine, ofStatements_eq]
    rfl

/-! ## Lines as they stand in a source -/

section
variable (units : Unit.Table)

/-- A line with its conversion tags resolved, if they can be. -/
def resolved? (line : Text) : Option Text := (Conversion.resolve units.conversion line).toOption

/-- The name and the expression that a line of a source defines. -/
def definedBy? (line : Text) : Option (Text × Text) := (resolved? units line).bind defined?

/-- What a line of a source says in a scope. -/
def saidBy? (s : Scope) (line : Text) : Option Statement := (resolved? units line).bind (reading? s)

/-- The scope of a source, if its tags can be resolved and its definitions carried out. -/
def scope? (source : Text) : Option Scope :=
  (resolved? units source).bind fun text => (Scope.ofDefinitions (Scope.definitions text)).toOption

end

section
variable {units : Unit.Table} {source : Text}

theorem resolved?_eq_some {line text : Text} :
    resolved? units line = some text ↔ Conversion.resolve units.conversion line = .ok text := by
  unfold resolved?
  cases Conversion.resolve units.conversion line <;> simp [Except.toOption]

theorem lines_of_resolved {text : Text} (h : resolved? units source = some text) :
    (∀ line ∈ lines source, (resolved? units line).isSome) ∧
      lines text = (lines source).filterMap (resolved? units) := by
  have hmap := (Conversion.linewise_resolve units.conversion).map_lines source
  rw [resolved?_eq_some.mp h, map_ok, eq_comm] at hmap
  refine ⟨fun line hline => ?_, ?_⟩
  · obtain ⟨text, htext⟩ := exists_mapM_eq_ok.mp ⟨_, hmap⟩ line hline
    rw [resolved?_eq_some.mpr htext]
    rfl
  · rw [← List.map_id (lines text)]
    exact map_eq_filterMap_of_mapM id _ (fun _ _ htext => resolved?_eq_some.mpr htext) hmap

theorem exists_resolved (h : ∀ line ∈ lines source, (resolved? units line).isSome) :
    ∃ text, resolved? units source = some text := by
  have hmap := (Conversion.linewise_resolve units.conversion).map_lines source
  obtain ⟨ls, hls⟩ := exists_mapM_eq_ok.mpr fun line hline => by
    obtain ⟨text, htext⟩ := Option.isSome_iff_exists.mp (h line hline)
    exact ⟨text, resolved?_eq_some.mp htext⟩
  rw [hls] at hmap
  obtain ⟨text, htext, -⟩ := map_eq_ok.mp hmap
  exact ⟨text, resolved?_eq_some.mpr htext⟩

/-- The scope is that of what the lines define. -/
theorem exists_definitions (h : ∀ line ∈ lines source, (resolved? units line).isSome) :
    ∃ ds, ds.map Definition.unplaced = (lines source).filterMap (definedBy? units) ∧
      ∀ s, scope? units source = some s ↔ Scope.ofDefinitions ds = .ok s := by
  obtain ⟨text, htext⟩ := exists_resolved h
  refine ⟨Scope.definitions text, ?_, fun s => ?_⟩
  · refine (map_unplaced_definitions (lines text) 1).trans ?_
    rw [(lines_of_resolved htext).2, List.filterMap_filterMap]
    rfl
  · rw [scope?, htext, Option.bind_some]
    cases Scope.ofDefinitions (Scope.definitions text) <;> simp [Except.toOption]

theorem reachable_scope? {s : Scope} (h : scope? units source = some s) : s.Reachable := by
  obtain ⟨text, -, hscope⟩ := Option.bind_eq_some_iff.mp h
  exact Scope.reachable_ofDefinitions (eq_ok_of_toOption hscope)

theorem forall_saidBy?_iff {text : Text} (h : resolved? units source = some text) (s : Scope) :
    (∀ line ∈ lines source, (saidBy? units s line).isSome) ↔
      ∀ line ∈ lines text, (reading? s line).isSome := by
  obtain ⟨hresolved, hlines⟩ := lines_of_resolved h
  rw [hlines]
  constructor
  · intro hall line hline
    obtain ⟨raw, hraw, hline⟩ := List.mem_filterMap.mp hline
    have hsaid := hall raw hraw
    rwa [saidBy?, hline, Option.bind_some] at hsaid
  · intro hall raw hraw
    obtain ⟨line, hline⟩ := Option.isSome_iff_exists.mp (hresolved raw hraw)
    rw [saidBy?, hline, Option.bind_some]
    exact hall line (List.mem_filterMap.mpr ⟨raw, hraw, hline⟩)

/-- A source has a system if it has a scope in which each of its lines can be read. -/
theorem ofSource_eq_ok_iff_said {result : Problem × List Warning} :
    ofSource units source = .ok result ↔ ∃ s, scope? units source = some s ∧
      (∀ line ∈ lines source, (saidBy? units s line).isSome) ∧
      result = ofStatements ((lines source).filterMap (saidBy? units s)) s.parameters := by
  have hreadings : ∀ {text}, resolved? units source = some text → ∀ s,
      (lines text).filterMap (reading? s) = (lines source).filterMap (saidBy? units s) := by
    intro text htext s
    rw [(lines_of_resolved htext).2, List.filterMap_filterMap]
    rfl
  constructor
  · intro h
    obtain ⟨text, s, r, htext, hcompiles, rfl⟩ := ofSource_eq_ok.mp h
    obtain ⟨s', hs', hall, hresult⟩ :=
      compileLines_eq_ok_iff.mp (compileLines_eq_ok.mpr ⟨s, r, hcompiles, rfl⟩)
    have hresolved := resolved?_eq_some.mpr htext
    refine ⟨s', ?_, (forall_saidBy?_iff hresolved s').mpr hall, ?_⟩
    · rw [scope?, hresolved, Option.bind_some]
      exact congrArg Except.toOption hs'
    · rw [hresult, hreadings hresolved]
  · rintro ⟨s, hs, hall, rfl⟩
    obtain ⟨text, htext, hscope⟩ := Option.bind_eq_some_iff.mp hs
    have hcompile := compileLines_eq_ok_iff.mpr
      ⟨s, eq_ok_of_toOption hscope, (forall_saidBy?_iff htext s).mp hall, rfl⟩
    rw [hreadings htext] at hcompile
    obtain ⟨s', r, hcompiles, hresult⟩ := compileLines_eq_ok.mp hcompile
    exact ofSource_eq_ok.mpr ⟨text, s', r, resolved?_eq_some.mp htext, hcompiles, hresult⟩

end

/-! ## Line ends -/

theorem ignoresReturn_defined? : IgnoresReturn defined? := fun line => by
  rw [← map_unplaced_definition? line 0, ← map_unplaced_definition? _ 0]
  exact congrArg (Option.map Definition.unplaced) (ignoresReturn_definition? 0 line)

theorem ignoresReturn_readStatement (n : Nat) : IgnoresReturn (readStatement · n) := fun line => by
  simp only [readStatement, Directive.kind?_append_return, ignoresReturn_readGuess n line,
    ignoresReturn_readKeep n line, ignoresReturn_isCandidate line, ignoresReturn_readEquation n line]

theorem ignoresReturn_statement (s : Scope) (n : Nat) : IgnoresReturn (statement s · n) := fun line => by
  simp only [statement, ignoresReturn_defines line, ignoresReturn_checkLine s n line,
    s.substitute_append_return, ignoresReturn_readStatement n (s.substitute line)]

section
variable (units : Unit.Table) {α : Type} {f : Text → Option α}

theorem ignoresReturn_bind_resolved? (hf : IgnoresReturn f) :
    IgnoresReturn fun line => (resolved? units line).bind f := fun line => by
  have hcarriage := (Conversion.linewise_resolve units.conversion).carriage line
  simp only [resolved?, hcarriage]
  cases Conversion.resolve units.conversion line with
  | error e => rfl
  | ok text => exact hf text

theorem ignoresReturn_definedBy? : IgnoresReturn (definedBy? units) :=
  ignoresReturn_bind_resolved? units ignoresReturn_defined?

theorem ignoresReturn_saidBy? (s : Scope) : IgnoresReturn (saidBy? units s) :=
  ignoresReturn_bind_resolved? units fun line =>
    congrArg Except.toOption (ignoresReturn_statement s 0 line)

end

@[simp] theorem definedBy?_nil (units : Unit.Table) : definedBy? units [] = none := by
  rw [definedBy?, resolved?_eq_some.mpr (Conversion.linewise_resolve units.conversion).nil]
  rfl

@[simp] theorem saidBy?_nil (units : Unit.Table) (s : Scope) : saidBy? units s [] = some .other := by
  rw [saidBy?, resolved?_eq_some.mpr (Conversion.linewise_resolve units.conversion).nil,
    Option.bind_some, reading?, statement, Scope.substitute_nil]
  rfl

end Equate.Problem
