import Equate.Problem.Source
import Equate.Proofs.Conversion.Lines
import Equate.Proofs.Directive.Reading
import Equate.Proofs.Directive.Return
import Equate.Proofs.Parameter.Substitution
import Equate.Proofs.Text.Part

/-!
# Source texts are compiled line by line

The passes of `resolve` rewrite the whole text and take its lines anew each time. The
reference `compile` takes the lines once and treats each of them on its own: its tags,
its names, its statement. Both succeed on the same sources and with the same systems, so
no pass loses a line, reads it twice, moves it or makes another one of it.
-/
namespace Equate.Problem
open Text Success

/-! ## The reference -/

/-- What a line contributes to the system; definitions and prose contribute nothing. -/
inductive Statement where
  | guess (g : Directive.Guess)
  | keep (k : Directive.Keep)
  | equation (t : Text)
  | other

namespace Statement

/-- The guess that a statement gives. -/
def guess? : Statement → Option Directive.Guess
  | guess g => some g
  | _ => none

/-- The bound that a statement gives. -/
def keep? : Statement → Option Directive.Keep
  | keep k => some k
  | _ => none

/-- The equation that a statement gives. -/
def equation? : Statement → Option Text
  | equation t => some t
  | _ => none

end Statement

/-- A line that defines a parameter. -/
def defines (line : Text) : Bool := line.contains ':'

theorem defines_eq_false_iff {line : Text} : defines line = false ↔ ':' ∉ line := by
  rw [← Bool.not_eq_true, defines, List.contains_iff_mem]

/-- A line that has an equals sign and opens with no directive. -/
def equates (line : Text) : Bool := !Directive.directs line && Equation.isCandidate line

/-- The statement of a line whose names have been replaced. -/
def readStatement (line : Text) (n : Nat) : Except Fault Statement :=
  match Directive.kind? line with
  | some .guess => (Directive.readGuess n line).map .guess
  | some .keep => (Directive.readKeep n line).map .keep
  | none =>
    if Equation.isCandidate line then (Equation.read line n).map .equation else .ok .other

/-- The statement of a line in the scope of all definitions. A line that is none itself is
checked before its names are replaced. -/
def statement (s : Scope) (line : Text) (n : Nat) : Except Fault Statement :=
  if defines line then .ok .other
  else do
    s.checkLine n line
    readStatement (s.substitute line) n

/-- The definition of a line, if it has a colon. -/
def definition? (line : Text) (n : Nat) : Option Definition :=
  (splitAt? ':' line).map fun (name, expression) =>
    ⟨n, trim line, trim name, trim expression⟩

/-- The system of the lines of a source, their tags resolved. -/
def compileLines (ls : List Text) : Except Fault (Problem × List Warning) := do
  let scope ← Scope.ofDefinitions ((ls.zipIdx 1).filterMap fun (line, n) => definition? line n)
  let statements ← (ls.zipIdx 1).mapM fun (line, n) => statement scope line n
  return collect (statements.filterMap Statement.equation?)
    (.ofEntries ((statements.filterMap Statement.guess?).map fun g => (g.name, g.value)))
    (.ofEntries ((statements.filterMap Statement.keep?).map fun k => (k.name, k.bound)))
    scope.parameters

/-- The system of a source text, compiled a line at a time. -/
def compile (units : Unit.Table) (source : Text) : Except Fault (Problem × List Warning) := do
  compileLines (← (lines source).mapM (Conversion.resolve units.conversion))

/-! ## Readers of lines -/

theorem ignoresReturn_defines : IgnoresReturn defines := fun line => by
  simp [defines]

theorem ignoresReturn_definition? (n : Nat) : IgnoresReturn (definition? · n) := fun line => by
  show definition? (line ++ ['\r']) n = definition? line n
  rw [definition?, definition?, splitAt?_append_return (by decide), Option.map_map,
    trim_append_return]
  refine congrArg (Option.map · _) (funext fun (name, expression) => ?_)
  exact congrArg (Definition.mk n (trim line) (trim name)) (trim_append_return expression)

theorem ignoresReturn_isCandidate : IgnoresReturn Equation.isCandidate :=
  fun line => by simp [Equation.isCandidate]

theorem ignoresReturn_equates : IgnoresReturn equates := fun line => by
  rw [equates, Directive.directs, Directive.kind?_append_return, ignoresReturn_isCandidate line]
  rfl

theorem ignoresReturn_readEquation (n : Nat) : IgnoresReturn (Equation.read · n) :=
  fun line => by simp only [Equation.read, Equation.Cause.fault, trim_append_return]

theorem ignoresReturn_readGuess (n : Nat) : IgnoresReturn (Directive.readGuess n) :=
  fun line => by
    simp only [Directive.readGuess, Directive.readNumber, Directive.Cause.fault,
      Directive.guessParts?_append_return, trim_append_return]

theorem ignoresReturn_readKeep (n : Nat) : IgnoresReturn (Directive.readKeep n) :=
  fun line => by
    simp only [Directive.readKeep, Directive.readNumber, Directive.Cause.fault,
      Directive.keepParts?_append_return, trim_append_return]

theorem ignoresReturn_checkLine (s : Scope) (n : Nat) : IgnoresReturn (s.checkLine n) :=
  fun line => by
    have hblank : isBlank '\r' := by decide
    simp only [Scope.checkLine, Scope.checkDirective, Scope.checkEquation, Equation.Cause.fault,
      Directive.kind?_append_return, Directive.target?_append_return,
      ignoresReturn_isCandidate line, Name.gluedName?_append_blank hblank,
      Name.identifiers_append_blank hblank, trim_append_return]

/-! ## Checks of lines -/

theorem checkDirective_eq_ok {s : Scope} {n : Nat} {line : Text} :
    s.checkDirective n line = .ok () ↔ ∀ target ∈ Directive.target? line, s.contains target = false := by
  unfold Scope.checkDirective
  cases Directive.target? line with
  | none => simp
  | some target => cases hcontains : s.contains target <;> simp [hcontains]

theorem checkEquation_eq_ok {s : Scope} {n : Nat} {line : Text} :
    s.checkEquation n line = .ok () ↔ Name.gluedName? line = none ∧
      (Name.identifiers line = [] ∨ (Name.identifiers line).all s.contains = false) := by
  unfold Scope.checkEquation
  cases Name.gluedName? line with
  | some name => simp
  | none =>
    cases Name.identifiers line with
    | nil => simp
    | cons first rest => cases hall : (first :: rest).all s.contains <;> simp [hall]

/-! ## The passes over a text -/

theorem isSome_splitAt? (c : Char) (t : Text) : (splitAt? c t).isSome = t.contains c := by
  induction t with
  | nil => rfl
  | cons d t ih =>
    rw [splitAt?, List.contains_cons]
    split
    · next h => simp [h]
    · next h => simp [ih, show (c == d) = false by simpa using fun e => h e.symm]

theorem mem_definitions_line {t : Text} {n : Nat} :
    n ∈ (Scope.definitions t).map Definition.line ↔
      ∃ line, (line, n) ∈ numberedLines t ∧ defines line := by
  simp only [Scope.definitions, List.map_filterMap, List.mem_filterMap, Prod.exists]
  constructor
  · rintro ⟨line, m, hx, h⟩
    obtain ⟨d, hd, rfl⟩ := Option.map_eq_some_iff.mp h
    obtain ⟨parts, hparts, rfl⟩ := Option.map_eq_some_iff.mp hd
    refine ⟨line, hx, ?_⟩
    rw [defines, ← isSome_splitAt?, hparts]
    rfl
  · rintro ⟨line, hx, h⟩
    rw [defines, ← isSome_splitAt?] at h
    obtain ⟨parts, hparts⟩ := Option.isSome_iff_exists.mp h
    exact ⟨line, n, hx, by rw [hparts]; rfl⟩

/-- A line as the directives and equations are read from it. -/
def rewritten (s : Scope) (line : Text) : Text := s.substitute (emptied defines line)

theorem rewritten_of_defines {s : Scope} {line : Text} (h : defines line = true) :
    rewritten s line = [] := by
  rw [rewritten, emptied, if_pos h, Scope.substitute_nil]

theorem rewritten_of_not_defines {s : Scope} {line : Text} (h : defines line = false) :
    rewritten s line = s.substitute line := by
  rw [rewritten, emptied, h, if_neg Bool.false_ne_true]

/-- The text that directives and equations are read from: the lines of definitions are
empty, and names have given way to values. -/
def leftText (s : Scope) (t : Text) : Text :=
  s.substitute (blank ((Scope.definitions t).map Definition.line) t)

/-- The text after the definitions has the same lines as far as they are ever read. -/
theorem rejoined_rewritten (s : Scope) (t : Text) :
    Rejoined ((lines t).map (rewritten s)) (lines (leftText s t)) := by
  rw [leftText, s.lines_substitute, show rewritten s = s.substitute ∘ emptied defines from rfl,
    ← List.map_map]
  refine (rejoined_blank fun n => mem_definitions_line).map s.substitute_nil fun line hline => ?_
  obtain ⟨line, hmem, rfl⟩ := List.mem_map.mp hline
  exact s.substitute_withoutReturn
    (newline_not_mem_emptied (newline_not_mem_of_mem_lines hmem))

/-- The scope of a text is that of its definitions, if every other line passes the check. -/
theorem extract_eq (t : Text) :
    Scope.extract t = (do
      let s ← Scope.ofDefinitions (Scope.definitions t)
      (numberedLines t).forM fun (line, n) => s.checkLine n (emptied defines line)
      return (leftText s t, s)) := by
  refine bind_congr fun s => ?_
  exact congrArg (· >>= _) ((rejoined_blank fun n => mem_definitions_line (n := n)).forM_map
    (f := fun line n => s.checkLine n line) (fun _ => rfl) (ignoresReturn_checkLine s) 1)

theorem forM_checkLine_eq_ok {s : Scope} {xs : List (Text × Nat)} :
    xs.forM (fun (line, n) => s.checkLine n (emptied defines line)) = .ok () ↔
      ∀ line n, (line, n) ∈ xs → defines line = false → s.checkLine n line = .ok () := by
  rw [forM_eq_ok, Prod.forall]
  refine forall_congr' fun line => forall_congr' fun n => forall_congr' fun hx => ?_
  show s.checkLine n (emptied defines line) = .ok () ↔ _
  unfold emptied
  cases defines line with
  | true => exact ⟨fun _ h => (nomatch h), fun _ => rfl⟩
  | false => exact ⟨fun h _ => h, fun h => h rfl⟩

theorem extract_eq_ok {t : Text} {result : Text × Scope} :
    Scope.extract t = .ok result ↔ ∃ s, Scope.ofDefinitions (Scope.definitions t) = .ok s ∧
      (∀ line n, (line, n) ∈ numberedLines t → defines line = false → s.checkLine n line = .ok ()) ∧
      result = (leftText s t, s) := by
  rw [extract_eq, bind_eq_ok]
  refine exists_congr fun s => and_congr_right fun _ => ?_
  rw [← forM_checkLine_eq_ok, bind_eq_ok]
  constructor
  · rintro ⟨⟨⟩, hcheck, h⟩
    exact ⟨hcheck, (Except.ok.inj h).symm⟩
  · rintro ⟨hcheck, rfl⟩
    exact ⟨(), hcheck, rfl⟩

section
variable (s : Scope) (t : Text)

/-- The guesses are read from the lines as they are rewritten. -/
theorem guesses_leftText : Directive.guesses (leftText s t) =
    ((numberedLines t).filter fun x => Directive.kind? (rewritten s x.1) == some .guess).mapM
      fun x => Directive.readGuess x.2 (rewritten s x.1) :=
  (rejoined_rewritten s t).mapM_filter_map (p := fun line => Directive.kind? line == some .guess)
    (f := fun line n => Directive.readGuess n line) rfl
    (fun line => congrArg (· == _) (Directive.kind?_append_return line)) ignoresReturn_readGuess 1

/-- So are the bounds. -/
theorem keeps_leftText : Directive.keeps (leftText s t) =
    ((numberedLines t).filter fun x => Directive.kind? (rewritten s x.1) == some .keep).mapM
      fun x => Directive.readKeep x.2 (rewritten s x.1) :=
  (rejoined_rewritten s t).mapM_filter_map (p := fun line => Directive.kind? line == some .keep)
    (f := fun line n => Directive.readKeep n line) rfl
    (fun line => congrArg (· == _) (Directive.kind?_append_return line)) ignoresReturn_readKeep 1

end

/-- The equations are read from the lines that no directive has been read from. -/
theorem readAll_remaining {t : Text} {gs : List Directive.Guess} {ks : List Directive.Keep}
    (hgs : Directive.guesses t = .ok gs) (hks : Directive.keeps t = .ok ks) :
    Equation.readAll (blank (gs.map Directive.Guess.line ++ ks.map Directive.Keep.line) t) =
      ((numberedLines t).filter fun x => equates x.1).mapM fun x => Equation.read x.1 x.2 := by
  have hjoin := (rejoined_blank fun n =>
      Directive.mem_directives_line (n := n) hgs hks).mapM_filter_map
    (p := Equation.isCandidate) (f := Equation.read) rfl ignoresReturn_isCandidate
    ignoresReturn_readEquation 1
  have hleft := filter_emptied (p := Equation.isCandidate) (q := Directive.directs) rfl
    (numberedLines t)
  calc
    _ = _ := hjoin
    _ = (((numberedLines t).filter fun x => Equation.isCandidate (emptied Directive.directs x.1)).map
          fun x => (emptied Directive.directs x.1, x.2)).mapM fun x => Equation.read x.1 x.2 := by
      rw [List.mapM_map]
      rfl
    _ = _ := by rw [hleft]; rfl

/-! ## Both ways agree -/

theorem kind?_eq_of_readStatement {line : Text} {n : Nat} {st : Statement}
    (h : readStatement line n = .ok st) :
    (∃ g, Directive.kind? line = some .guess ∧ Directive.readGuess n line = .ok g ∧ st = .guess g) ∨
    (∃ k, Directive.kind? line = some .keep ∧ Directive.readKeep n line = .ok k ∧ st = .keep k) ∨
    (∃ t, Directive.kind? line = none ∧ Equation.isCandidate line = true ∧
      Equation.read line n = .ok t ∧ st = .equation t) ∨
    (Directive.kind? line = none ∧ Equation.isCandidate line = false ∧ st = .other) := by
  unfold readStatement at h
  split at h
  · next hkind =>
    obtain ⟨g, hg, rfl⟩ := map_eq_ok.mp h
    exact .inl ⟨g, hkind, hg, rfl⟩
  · next hkind =>
    obtain ⟨k, hk, rfl⟩ := map_eq_ok.mp h
    exact .inr (.inl ⟨k, hkind, hk, rfl⟩)
  · next hkind =>
    split at h
    · next hcandidate =>
      obtain ⟨t, ht, rfl⟩ := map_eq_ok.mp h
      exact .inr (.inr (.inl ⟨t, hkind, hcandidate, ht, rfl⟩))
    · next hcandidate =>
      cases h
      exact .inr (.inr (.inr ⟨hkind, by simpa using hcandidate, rfl⟩))

theorem statement_eq_ok {s : Scope} {line : Text} {n : Nat} {st : Statement} :
    statement s line n = .ok st ↔
      (defines line = false → s.checkLine n line = .ok ()) ∧
        readStatement (rewritten s line) n = .ok st := by
  unfold statement rewritten emptied
  cases defines line with
  | true =>
    rw [if_pos rfl, if_pos rfl, Scope.substitute_nil]
    exact ⟨fun h => ⟨fun h => (nomatch h), h⟩, And.right⟩
  | false =>
    rw [if_neg Bool.false_ne_true, if_neg Bool.false_ne_true, bind_eq_ok]
    constructor
    · rintro ⟨⟨⟩, hcheck, h⟩
      exact ⟨fun _ => hcheck, h⟩
    · rintro ⟨hcheck, h⟩
      exact ⟨(), hcheck rfl, h⟩

/-- The directives and equations that are read from numbered lines one after another. -/
structure Readings where
  guesses : List Directive.Guess
  keeps : List Directive.Keep
  equations : List Text

/-- What the statements of all lines come to. -/
def Readings.ofStatements (sts : List Statement) : Readings :=
  ⟨sts.filterMap Statement.guess?, sts.filterMap Statement.keep?,
    sts.filterMap Statement.equation?⟩

/-- Three passes over numbered lines, each for one kind of statement. -/
def readings (g : Text → Text) (xs : List (Text × Nat)) : Except Fault Readings := do
  let guesses ← (xs.filter fun x => Directive.kind? (g x.1) == some .guess).mapM
    fun x => Directive.readGuess x.2 (g x.1)
  let keeps ← (xs.filter fun x => Directive.kind? (g x.1) == some .keep).mapM
    fun x => Directive.readKeep x.2 (g x.1)
  let equations ← (xs.filter fun x => equates (g x.1)).mapM fun x => Equation.read (g x.1) x.2
  return { guesses, keeps, equations }

/-- The readings of three passes, each over all lines for one kind of statement. -/
structure ReadBy (g : Text → Text) (xs : List (Text × Nat)) (r : Readings) : Prop where
  guesses : (xs.filter fun x => Directive.kind? (g x.1) == some .guess).mapM
    (fun x => Directive.readGuess x.2 (g x.1)) = .ok r.guesses
  keeps : (xs.filter fun x => Directive.kind? (g x.1) == some .keep).mapM
    (fun x => Directive.readKeep x.2 (g x.1)) = .ok r.keeps
  equations : (xs.filter fun x => equates (g x.1)).mapM
    (fun x => Equation.read (g x.1) x.2) = .ok r.equations

theorem readings_eq_ok {g : Text → Text} {xs : List (Text × Nat)} {r : Readings} :
    readings g xs = .ok r ↔ ReadBy g xs r := by
  simp only [readings, bind_eq_ok]
  constructor
  · rintro ⟨gs, hgs, ks, hks, es, hes, h⟩
    cases h
    exact ⟨hgs, hks, hes⟩
  · rintro ⟨hgs, hks, hes⟩
    exact ⟨r.guesses, hgs, r.keeps, hks, r.equations, hes, rfl⟩

theorem readBy_of_mapM {s : Scope} {xs : List (Text × Nat)} {sts : List Statement}
    (h : xs.mapM (fun x => statement s x.1 x.2) = .ok sts) :
    ReadBy (rewritten s) xs (.ofStatements sts) := by
  refine ⟨mapM_filter_of_mapM ?_ ?_ h, mapM_filter_of_mapM ?_ ?_ h, mapM_filter_of_mapM ?_ ?_ h⟩
  all_goals
    intro x st hst hp
    rcases kind?_eq_of_readStatement (statement_eq_ok.mp hst).2 with
      ⟨g, hk, hg, rfl⟩ | ⟨k, hk, hg, rfl⟩ | ⟨t, hk, hc, ht, rfl⟩ | ⟨hk, hc, rfl⟩ <;>
    simp_all [equates, Directive.directs, Statement.guess?, Statement.keep?, Statement.equation?]

theorem exists_readStatement {g : Text → Text} {xs : List (Text × Nat)} {r : Readings}
    (h : ReadBy g xs r) {x : Text × Nat} (hx : x ∈ xs) :
    ∃ st, readStatement (g x.1) x.2 = .ok st := by
  unfold readStatement
  cases hk : Directive.kind? (g x.1) with
  | none =>
    cases hc : Equation.isCandidate (g x.1) with
    | false => exact ⟨.other, rfl⟩
    | true =>
      have hmem : x ∈ xs.filter fun x => equates (g x.1) :=
        List.mem_filter.mpr ⟨hx, by simp [equates, Directive.directs, hk, hc]⟩
      obtain ⟨t, ht⟩ := exists_mapM_eq_ok.mp ⟨_, h.equations⟩ x hmem
      exact ⟨.equation t, map_eq_ok.mpr ⟨t, ht, rfl⟩⟩
  | some kind =>
    have hmem : x ∈ xs.filter fun x => Directive.kind? (g x.1) == some kind :=
      List.mem_filter.mpr ⟨hx, by simp [hk]⟩
    cases kind with
    | guess =>
      obtain ⟨guess, hguess⟩ := exists_mapM_eq_ok.mp ⟨_, h.guesses⟩ x hmem
      exact ⟨.guess guess, map_eq_ok.mpr ⟨guess, hguess, rfl⟩⟩
    | keep =>
      obtain ⟨keep, hkeep⟩ := exists_mapM_eq_ok.mp ⟨_, h.keeps⟩ x hmem
      exact ⟨.keep keep, map_eq_ok.mpr ⟨keep, hkeep, rfl⟩⟩

theorem ReadBy.unique {g : Text → Text} {xs : List (Text × Nat)} {r r' : Readings}
    (h : ReadBy g xs r) (h' : ReadBy g xs r') : r = r' :=
  Except.ok.inj ((readings_eq_ok.mpr h).symm.trans (readings_eq_ok.mpr h'))

/-- One pass over the statements succeeds exactly if the checks and the three passes by kind
do, and then they read the same. -/
theorem mapM_statement_eq_ok {s : Scope} {xs : List (Text × Nat)} {r : Readings} :
    (∃ sts, xs.mapM (fun x => statement s x.1 x.2) = .ok sts ∧ Readings.ofStatements sts = r) ↔
      (∀ line n, (line, n) ∈ xs → defines line = false → s.checkLine n line = .ok ()) ∧
        ReadBy (rewritten s) xs r := by
  constructor
  · rintro ⟨sts, h, rfl⟩
    refine ⟨fun line n hx => ?_, readBy_of_mapM h⟩
    obtain ⟨st, hst⟩ := exists_mapM_eq_ok.mp ⟨sts, h⟩ (line, n) hx
    exact (statement_eq_ok.mp hst).1
  · rintro ⟨hcheck, h⟩
    have hall : ∀ x ∈ xs, ∃ st, statement s x.1 x.2 = .ok st := by
      intro x hx
      obtain ⟨st, hst⟩ := exists_readStatement h hx
      exact ⟨st, statement_eq_ok.mpr ⟨hcheck x.1 x.2 hx, hst⟩⟩
    obtain ⟨sts, hsts⟩ := exists_mapM_eq_ok.mpr hall
    exact ⟨sts, hsts, (readBy_of_mapM hsts).unique h⟩

/-- The system that readings in a scope come to. -/
def Readings.collect (r : Readings) (s : Scope) : Problem × List Warning :=
  Problem.collect r.equations (.ofEntries (r.guesses.map fun g => (g.name, g.value)))
    (.ofEntries (r.keeps.map fun k => (k.name, k.bound))) s.parameters

/-- The passes over the text that is left read what they read from the rewritten lines. -/
theorem extract_leftText (s : Scope) (t : Text) :
    (do
      let found ← Directive.extract (leftText s t)
      let equations ← Equation.readAll found.remaining
      return collect equations found.guesses found.bounds s.parameters) =
    (do return (← readings (rewritten s) (numberedLines t)).collect s) := by
  rw [Directive.extract, readings, ← guesses_leftText, ← keeps_leftText]
  cases hgs : Directive.guesses (leftText s t) with
  | error e => rfl
  | ok gs =>
    cases hks : Directive.keeps (leftText s t) with
    | error e => rfl
    | ok ks =>
      have hread := (readAll_remaining hgs hks).trans ((rejoined_rewritten s t).mapM_filter_map
        (p := equates) (f := Equation.read) rfl ignoresReturn_equates ignoresReturn_readEquation 1)
      simp only [ok_bind, pure_eq, hread]
      simp only [bind_assoc, ok_bind]
      rfl

/-- The system of lines whose tags are resolved, read by one pass after another: definitions,
checks, guesses, bounds, equations. -/
def readLines (ls : List Text) : Except Fault (Problem × List Warning) := do
  let s ← Scope.ofDefinitions ((ls.zipIdx 1).filterMap fun (line, n) => definition? line n)
  (ls.zipIdx 1).forM fun (line, n) => s.checkLine n (emptied defines line)
  return (← readings (rewritten s) (ls.zipIdx 1)).collect s

/-- The passes over a source, said of its lines; failures included. -/
theorem resolve_eq (units : Unit.Table) (source : Text) :
    resolve units source =
      (lines source).mapM (Conversion.resolve units.conversion) >>= readLines := by
  have hpasses : ∀ text, (Scope.extract text >>= fun x => do
      let found ← Directive.extract x.1
      let equations ← Equation.readAll found.remaining
      return collect equations found.guesses found.bounds x.2.parameters) = readLines (lines text) := by
    intro text
    rw [extract_eq, bind_assoc]
    refine bind_congr fun s => ?_
    rw [bind_assoc]
    exact bind_congr fun _ => extract_leftText s text
  rw [← (Conversion.linewise_resolve units.conversion).map_lines source, resolve]
  cases Conversion.resolve units.conversion source with
  | error e => rfl
  | ok text => exact hpasses text

/-- Lines without tags have a scope, pass its checks and can be read. -/
structure Compiles (ls : List Text) (s : Scope) (r : Readings) : Prop where
  scope : Scope.ofDefinitions ((ls.zipIdx 1).filterMap fun (line, n) => definition? line n) = .ok s
  checked : ∀ line n, (line, n) ∈ ls.zipIdx 1 → defines line = false → s.checkLine n line = .ok ()
  read : ReadBy (rewritten s) (ls.zipIdx 1) r

/-- The lines that become equations once names are replaced. -/
def equationLines (s : Scope) (ls : List Text) : List Text :=
  ls.filter fun line => !defines line && equates (s.substitute line)

theorem equates_rewritten (s : Scope) (line : Text) :
    equates (rewritten s line) = (!defines line && equates (s.substitute line)) := by
  cases hdefines : defines line with
  | true => rw [rewritten_of_defines hdefines]; rfl
  | false => rw [rewritten_of_not_defines hdefines]; rfl

theorem trim_of_readEquation {line e : Text} {n : Nat} (h : Equation.read line n = .ok e) :
    e = trim line := by
  rw [Equation.read] at h
  split at h
  · cases h
  · exact (Except.ok.inj h).symm

/-- The equations are those lines, their names replaced and cut at both ends. -/
theorem Compiles.equations_eq {ls : List Text} {s : Scope} {r : Readings} (h : Compiles ls s r) :
    r.equations = (equationLines s ls).map fun line => trim (s.substitute line) := by
  have hread : r.equations.map id = ((ls.zipIdx 1).filter fun x => equates (rewritten s x.1)).map
      fun x => trim (rewritten s x.1) :=
    map_of_mapM_eq_ok (fun _ _ hx => trim_of_readEquation hx) h.read.equations
  rw [List.map_id] at hread
  calc
    r.equations = _ := hread
    _ = (((ls.zipIdx 1).map Prod.fst).filter fun line => equates (rewritten s line)).map
          fun line => trim (rewritten s line) := by
      rw [List.filter_map, List.map_map]
      rfl
    _ = (equationLines s ls).map fun line => trim (rewritten s line) := by
      rw [List.zipIdx_map_fst]
      simp only [equates_rewritten, equationLines]
    _ = _ := by
      refine List.map_congr_left fun line hline => ?_
      have := (List.mem_filter.mp hline).2
      rw [Bool.and_eq_true, Bool.not_eq_true'] at this
      rw [rewritten_of_not_defines this.1]

theorem compileLines_eq_ok {ls : List Text} {result : Problem × List Warning} :
    compileLines ls = .ok result ↔ ∃ s r, Compiles ls s r ∧ result = r.collect s := by
  rw [compileLines, bind_eq_ok]
  constructor
  · rintro ⟨s, hs, h⟩
    obtain ⟨sts, hsts, h⟩ := bind_eq_ok.mp h
    obtain ⟨hcheck, hread⟩ := mapM_statement_eq_ok.mp ⟨sts, hsts, rfl⟩
    exact ⟨s, .ofStatements sts, ⟨hs, hcheck, hread⟩, (Except.ok.inj h).symm⟩
  · rintro ⟨s, r, ⟨hs, hcheck, hread⟩, rfl⟩
    obtain ⟨sts, hsts, rfl⟩ := mapM_statement_eq_ok.mpr ⟨hcheck, hread⟩
    exact ⟨s, hs, bind_eq_ok.mpr ⟨sts, hsts, rfl⟩⟩

theorem readLines_eq_ok {ls : List Text} {result : Problem × List Warning} :
    readLines ls = .ok result ↔ ∃ s r, Compiles ls s r ∧ result = r.collect s := by
  rw [readLines, bind_eq_ok]
  constructor
  · rintro ⟨s, hs, h⟩
    obtain ⟨⟨⟩, hcheck, h⟩ := bind_eq_ok.mp h
    obtain ⟨r, hr, h⟩ := bind_eq_ok.mp h
    exact ⟨s, r, ⟨hs, forM_checkLine_eq_ok.mp hcheck, readings_eq_ok.mp hr⟩, (Except.ok.inj h).symm⟩
  · rintro ⟨s, r, ⟨hs, hcheck, hr⟩, rfl⟩
    exact ⟨s, hs, bind_eq_ok.mpr ⟨(), forM_checkLine_eq_ok.mpr hcheck,
      bind_eq_ok.mpr ⟨r, readings_eq_ok.mpr hr, rfl⟩⟩⟩

/-- What the passes over a source that has a system amount to, said of its lines. -/
theorem ofSource_eq_ok {units : Unit.Table} {source : Text} {result : Problem × List Warning} :
    ofSource units source = .ok result ↔
      ∃ text s r, Conversion.resolve units.conversion source = .ok text ∧
        Compiles (lines text) s r ∧ result = r.collect s := by
  have hfault : ofSource units source = .ok result ↔ resolve units source = .ok result := by
    unfold ofSource
    cases resolve units source with
    | error e => exact iff_of_false nofun nofun
    | ok found => exact ⟨fun h => congrArg Except.ok (Except.ok.inj h),
        fun h => congrArg Except.ok (Except.ok.inj h)⟩
  rw [hfault, resolve_eq, ← (Conversion.linewise_resolve units.conversion).map_lines source, bind_eq_ok]
  constructor
  · rintro ⟨ls, hls, h⟩
    obtain ⟨text, htext, rfl⟩ := map_eq_ok.mp hls
    obtain ⟨s, r, hr⟩ := readLines_eq_ok.mp h
    exact ⟨text, s, r, htext, hr⟩
  · rintro ⟨text, s, r, htext, hr⟩
    exact ⟨lines text, map_eq_ok.mpr ⟨text, htext, rfl⟩, readLines_eq_ok.mpr ⟨s, r, hr⟩⟩

/-- A source has the system that its parts come to, if each of them comes out. -/
theorem ofSource_of_toOption {units : Unit.Table} {source : Text} {s : Scope} (text : Text)
    (r : Readings) (htags : (Conversion.resolve units.conversion source).toOption = some text)
    (hscope : Scope.ofDefinitions (Scope.definitions text) = .ok s)
    (hcheck : ∀ x ∈ numberedLines text, defines x.1 = false →
      (s.checkLine x.2 x.1).toOption = some ())
    (hguesses : (((numberedLines text).filter fun x =>
        Directive.kind? (rewritten s x.1) == some .guess).mapM fun x =>
      Directive.readGuess x.2 (rewritten s x.1)).toOption = some r.guesses)
    (hkeeps : (((numberedLines text).filter fun x =>
        Directive.kind? (rewritten s x.1) == some .keep).mapM fun x =>
      Directive.readKeep x.2 (rewritten s x.1)).toOption = some r.keeps)
    (hequations : (((numberedLines text).filter fun x => equates (rewritten s x.1)).mapM fun x =>
      Equation.read (rewritten s x.1) x.2).toOption = some r.equations) :
    ofSource units source = .ok (r.collect s) :=
  ofSource_eq_ok.mpr ⟨text, s, r, eq_ok_of_toOption htags,
    ⟨hscope, fun line n hx hdefines => eq_ok_of_toOption (hcheck (line, n) hx hdefines),
      eq_ok_of_toOption hguesses, eq_ok_of_toOption hkeeps, eq_ok_of_toOption hequations⟩, rfl⟩

/-- The system of a fall over a height, with a parameter and a bound. -/
theorem ofSource_fall : ofSource ⟨[]⟩ "g: 9.8\nkeep t on [0, 5]\ng * t = u" =
    .ok (Readings.collect ⟨[], [⟨2, "t", ⟨0, 5⟩⟩], ["(9.8) * t = u"]⟩
      (Scope.empty.push ⟨"g", 9.8, "9.8", 1⟩)) := by
  have hscope : Scope.ofDefinitions [⟨1, "g: 9.8", "g", "9.8"⟩] =
      .ok (Scope.empty.push ⟨"g", 9.8, "9.8", 1⟩) :=
    Scope.ofDefinitions_num (by decide) (by decide +kernel) (eq_ok_of_toOption (by decide +kernel))
      (by decide +kernel)
  exact ofSource_of_toOption "g: 9.8\nkeep t on [0, 5]\ng * t = u"
    ⟨[], [⟨2, "t", ⟨0, 5⟩⟩], ["(9.8) * t = u"]⟩ (by decide +kernel) hscope (by decide +kernel)
    (by decide +kernel) (by decide +kernel) (by decide +kernel)

/-- The passes over the whole text and the compilation a line at a time succeed on the same
sources, with the same system and the same warnings. -/
theorem ofSource_eq_ok_iff_compile (units : Unit.Table) (source : Text)
    (result : Problem × List Warning) :
    ofSource units source = .ok result ↔ compile units source = .ok result := by
  have htags := (Conversion.linewise_resolve units.conversion).map_lines source
  rw [ofSource_eq_ok, compile, bind_eq_ok]
  constructor
  · rintro ⟨text, s, r, htext, h⟩
    rw [htext] at htags
    exact ⟨lines text, htags.symm, compileLines_eq_ok.mpr ⟨s, r, h⟩⟩
  · rintro ⟨ls, hls, h⟩
    rw [hls] at htags
    obtain ⟨text, htext, rfl⟩ := map_eq_ok.mp htags
    obtain ⟨s, r, h⟩ := compileLines_eq_ok.mp h
    exact ⟨text, s, r, htext, h⟩

end Equate.Problem
