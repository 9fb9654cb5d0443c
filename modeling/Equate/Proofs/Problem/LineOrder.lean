import Equate.Proofs.Name.Map
import Equate.Proofs.Parameter.Order
import Equate.Proofs.Problem.Statements

/-!
# Lines in another order

Parameters apply to lines above and below them, and directives to variables wherever those
are used. The system of a source therefore stays the same when its lines change places, as
long as three things keep their order: the equations among themselves, the guesses for one
variable, and the bounds for one variable; and as long as every definition stays below those
that it uses.
-/
namespace Equate.Problem
open Text Success

/-! ## Orders to be kept -/

/-- What the order of lines matters for. -/
inductive Topic where
  | equations
  | guess (name : Text)
  | keep (name : Text)
  deriving DecidableEq

/-- The topic of a line whose names have been replaced. -/
def Topic.of? (line : Text) : Option Topic :=
  match Directive.kind? line with
  | some .guess => (Directive.guessParts? line).map fun parts => .guess parts.2
  | some .keep => (Directive.keepParts? line).map fun parts => .keep parts.1
  | none => if Equation.isCandidate line then some .equations else none

/-- The topic of a line of a source in a scope. -/
def topicIn? (units : Unit.Table) (s : Scope) (line : Text) : Option Topic :=
  (resolved? units line).bind fun text => Topic.of? (rewritten s text)

/-- The topic of a line in the scope of the source. A definition has none. -/
def topic? (units : Unit.Table) (source line : Text) : Option Topic :=
  (scope? units source).bind fun s => topicIn? units s line

/-- A line defines a name that the expression of a definition on another line uses. -/
def Feeds (units : Unit.Table) (line line' : Text) : Prop :=
  ∃ x y, definedBy? units line = some x ∧ definedBy? units line' = some y ∧ x.1 ∈ Expr.used y.2

/-- The lines of a source in an order that leaves the lines of each topic in theirs and each
definition below those that it uses. -/
structure Reordering (units : Unit.Table) (source : Text) (ls : List Text) : Prop where
  perm : ls.Perm (lines source)
  topics : ∀ topic, (ls.filter fun line => topic? units source line = some topic) =
    (lines source).filter fun line => topic? units source line = some topic
  fed : ∀ before line after, ls = before ++ line :: after →
    ∀ other ∈ lines source, Feeds units other line → other ∈ before

/-- What can be computed to see that lines are in such an order. -/
theorem reordering_of_words {units : Unit.Table} {source : Text} {ls : List Text} {s : Scope}
    (hs : scope? units source = some s) (hperm : ls.Perm (lines source))
    (htopics : ∀ topic ∈ (lines source).filterMap (topicIn? units s),
      (ls.filter fun line => topicIn? units s line = some topic) =
        (lines source).filter fun line => topicIn? units s line = some topic)
    (hfed : ∀ i (hi : i < ls.length), ∀ y ∈ definedBy? units ls[i], ∀ other ∈ lines source,
      ∀ x ∈ definedBy? units other, x.1 ∈ Expr.words y.2 → other ∈ ls.take i) :
    Reordering units source ls := by
  have htopic : topic? units source = topicIn? units s := by
    funext line
    rw [topic?, hs, Option.bind_some]
  refine ⟨hperm, fun topic => ?_, fun before line after heq other hother hfeeds => ?_⟩
  · rw [htopic]
    by_cases hmem : topic ∈ (lines source).filterMap (topicIn? units s)
    · exact htopics topic hmem
    · -- No line has this topic, in whatever order.
      have hnone : ∀ line ∈ lines source, topicIn? units s line ≠ some topic :=
        fun line hline heq => hmem (List.mem_filterMap.mpr ⟨line, hline, heq⟩)
      rw [List.filter_eq_nil_iff.mpr fun line hline => by simpa using hnone line (hperm.mem_iff.mp hline),
        List.filter_eq_nil_iff.mpr fun line hline => by simpa using hnone line hline]
  · subst heq
    obtain ⟨x, y, hx, hy, hname⟩ := hfeeds
    have hlength : before.length < (before ++ line :: after).length := by simp
    have hline : (before ++ line :: after)[before.length] = line := by simp
    have hbefore := hfed before.length hlength y (by rw [hline]; exact hy) other hother x hx
      (Expr.mem_words_of_mem_used hname)
    rwa [List.take_left] at hbefore

/-! ## Topics of statements -/

/-- The topic of a statement. -/
def Statement.topic? : Statement → Option Topic
  | guess g => some (.guess g.name)
  | keep k => some (.keep k.name)
  | equation _ => some .equations
  | other => none

theorem Statement.topic?_of_equation? {st : Statement} {e : Text} (h : st.equation? = some e) :
    st.topic? = some .equations := by
  cases st with
  | equation _ => rfl
  | _ => cases h

theorem Statement.topic?_of_guessed? {st : Statement} {e : Text × Float} (h : st.guessed? = some e) :
    st.topic? = some (.guess e.1) := by
  cases st with
  | guess _ => cases h; rfl
  | _ => cases h

theorem Statement.topic?_of_kept? {st : Statement} {e : Text × Bound} (h : st.kept? = some e) :
    st.topic? = some (.keep e.1) := by
  cases st with
  | keep _ => cases h; rfl
  | _ => cases h

theorem topic?_of_readStatement {line : Text} {n : Nat} {st : Statement}
    (h : readStatement line n = .ok st) : Topic.of? line = st.topic? := by
  rcases kind?_eq_of_readStatement h with ⟨g, hkind, hg, rfl⟩ | ⟨k, hkind, hk, rfl⟩ |
    ⟨e, hkind, hcandidate, -, rfl⟩ | ⟨hkind, hcandidate, rfl⟩ <;> rw [Topic.of?, hkind]
  · obtain ⟨number, name, value, hparts, -, rfl⟩ := Directive.readGuess_eq_ok.mp hg
    rw [hparts]
    rfl
  · obtain ⟨name, lowText, highText, low, high, hparts, -, -, -, rfl⟩ := Directive.readKeep_eq_ok.mp hk
    rw [hparts]
    rfl
  · rw [hcandidate]
    rfl
  · rw [hcandidate]
    rfl

theorem topicIn?_of_saidBy? {units : Unit.Table} {s : Scope} {line : Text} {st : Statement}
    (h : saidBy? units s line = some st) : topicIn? units s line = st.topic? := by
  obtain ⟨text, htext, hreading⟩ := Option.bind_eq_some_iff.mp h
  rw [topicIn?, htext, Option.bind_some]
  exact topic?_of_readStatement (statement_eq_ok.mp (reading?_eq_some.mp hreading)).2

/-! ## Scopes that agree -/

/-- What lines say is a matter of the values in the scope. -/
theorem statement_congr {s s' : Scope} (hs : s.Valid) (hs' : s'.Valid) (hvalue : s'.value? = s.value?) :
    statement s' = statement s := by
  have hcontains : s'.contains = s.contains := by
    funext name
    rw [hs'.contains_eq, hs.contains_eq, hvalue]
  funext line n
  simp only [statement, Scope.checkLine, Scope.checkDirective, Scope.checkEquation, Scope.substitute,
    hcontains, hvalue]

theorem saidBy?_congr {s s' : Scope} (hs : s.Valid) (hs' : s'.Valid) (hvalue : s'.value? = s.value?)
    (units : Unit.Table) : saidBy? units s' = saidBy? units s := by
  have hreading : reading? s' = reading? s := by
    unfold reading?
    rw [statement_congr hs hs' hvalue]
  unfold saidBy?
  rw [hreading]

namespace Reordering
variable {units : Unit.Table} {source : Text} {ls : List Text} {s : Scope}

/-- Lines that are joined with line feeds are these lines again, as far as they are read. -/
theorem rejoined (h : Reordering units source ls) : Rejoined ls (lines (unlines ls)) :=
  rejoined_unlines fun _ hline => newline_not_mem_of_mem_lines (h.perm.mem_iff.mp hline)

theorem filterMap_eq (h : Reordering units source ls) (hs : scope? units source = some s) {α : Type}
    {f : Statement → Option α} (topic : Topic) (hf : ∀ st a, f st = some a → st.topic? = some topic) :
    ((lines (unlines ls)).filterMap (saidBy? units s)).filterMap f =
      ((lines source).filterMap (saidBy? units s)).filterMap f := by
  have hother : f .other = none := Option.eq_none_iff_forall_ne_some.mpr fun a ha => nomatch hf _ a ha
  have hfilter : ∀ ls : List Text, (ls.filterMap fun line => (saidBy? units s line).bind f) =
      (ls.filter fun line => topic? units source line = some topic).filterMap
        fun line => (saidBy? units s line).bind f := by
    intro ls
    rw [List.filterMap_filter]
    refine List.filterMap_congr fun line _ => ?_
    cases hsaid : saidBy? units s line with
    | none => simp
    | some st =>
      have htopic : topic? units source line = st.topic? := by
        rw [topic?, hs, Option.bind_some, topicIn?_of_saidBy? hsaid]
      cases hst : f st with
      | none => simp [hst]
      | some a => simp [htopic, hf st a hst, hst]
  have hjoin := h.rejoined.filterMap (f := fun line => (saidBy? units s line).bind f)
    (by simp [hother]) fun line => congrArg (·.bind f) (ignoresReturn_saidBy? units s line)
  rw [List.filterMap_filterMap, List.filterMap_filterMap, hjoin, hfilter, h.topics, ← hfilter]

/-- Entries whose names decide their topic make the same map. -/
theorem ofEntries_eq (h : Reordering units source ls) (hs : scope? units source = some s) {α : Type}
    {f : Statement → Option (Text × α)} {topic : Text → Topic}
    (hf : ∀ st e, f st = some e → st.topic? = some (topic e.1)) :
    NameMap.ofEntries (((lines (unlines ls)).filterMap (saidBy? units s)).filterMap f) =
      NameMap.ofEntries (((lines source).filterMap (saidBy? units s)).filterMap f) := by
  apply NameMap.ofEntries_congr
  intro name
  rw [List.filter_filterMap, List.filter_filterMap]
  refine h.filterMap_eq hs (topic name) fun st e he => ?_
  obtain ⟨he, hname⟩ := Option.filter_eq_some_iff.mp he
  rw [hf st e he, eq_of_beq hname]

theorem system_eq (h : Reordering units source ls) (hs : scope? units source = some s)
    (ps : List Parameter) : ofStatements ((lines (unlines ls)).filterMap (saidBy? units s)) ps =
      ofStatements ((lines source).filterMap (saidBy? units s)) ps := by
  have hequations := h.filterMap_eq hs .equations fun _ _ => Statement.topic?_of_equation?
  have hguesses := h.ofEntries_eq hs fun _ _ => Statement.topic?_of_guessed?
  have hkeeps := h.ofEntries_eq hs fun _ _ => Statement.topic?_of_kept?
  rw [ofStatements, hequations, hguesses, hkeeps, ofStatements]

theorem forall_saidBy? (h : Reordering units source ls)
    (hsaid : ∀ line ∈ lines source, (saidBy? units s line).isSome) :
    ∀ line ∈ lines (unlines ls), (saidBy? units s line).isSome := by
  refine (h.rejoined.forall_mem (by simp) fun line => ?_).mpr fun line hline =>
    hsaid line (h.perm.mem_iff.mp hline)
  rw [ignoresReturn_saidBy? units s line]

/-- Each definition stands behind those whose names its expression uses. -/
theorem ordered (h : Reordering units source ls) {ds : List Definition}
    (hds : ds.map Definition.unplaced = (lines source).filterMap (definedBy? units))
    (hs : Scope.ofDefinitions ds = .ok s) : Scope.Ordered (ls.filterMap (definedBy? units)) := by
  intro before x after heq name hname
  obtain ⟨front, back, rfl, hfront, hback⟩ := List.filterMap_eq_append_iff.mp heq
  obtain ⟨skipped, line, rest, rfl, hskipped, hline, -⟩ := List.filterMap_eq_cons_iff.mp hback
  have hwritten := (Scope.map_ofDefinitions hs).trans hds
  -- Some line of the source defines the name, since the definitions could be carried out.
  have hx : x ∈ (lines source).filterMap (definedBy? units) := by
    refine List.mem_filterMap.mpr ⟨line, h.perm.mem_iff.mp ?_, hline⟩
    simp
  rw [← hwritten] at hx
  obtain ⟨p, hp, rfl⟩ := List.mem_map.mp hx
  obtain ⟨q, hq, rfl⟩ := List.mem_map.mp ((Scope.reachable_ofDefinitions hs).mem_of_mem_used hp hname)
  have hother : (q.name, q.expression) ∈ (lines source).filterMap (definedBy? units) := by
    rw [← hwritten]
    exact List.mem_map.mpr ⟨q, hq, rfl⟩
  obtain ⟨other, hmem, hdefines⟩ := List.mem_filterMap.mp hother
  have hbefore := h.fed (front ++ skipped) line rest (List.append_assoc front skipped (line :: rest)).symm
    other hmem ⟨_, _, hdefines, hline, hname⟩
  rw [← hfront]
  rcases List.mem_append.mp hbefore with hbefore | hbefore
  · exact List.mem_map.mpr ⟨_, List.mem_filterMap.mpr ⟨other, hbefore, hdefines⟩, rfl⟩
  · cases hdefines.symm.trans (hskipped other hbefore)

theorem exists_scope (h : Reordering units source ls) (hs : scope? units source = some s)
    (hsaid : ∀ line ∈ lines source, (saidBy? units s line).isSome) :
    ∃ s', scope? units (unlines ls) = some s' ∧ s'.Agree s := by
  obtain ⟨ds, hds, hscope⟩ := exists_definitions fun line hline =>
    Option.isSome_of_isSome_bind (hsaid line hline)
  obtain ⟨ds', hds', hscope'⟩ := exists_definitions fun line hline =>
    Option.isSome_of_isSome_bind (h.forall_saidBy? hsaid line hline)
  have hrun := (hscope s).mp hs
  rw [h.rejoined.filterMap (definedBy?_nil units) (ignoresReturn_definedBy? units)] at hds'
  have hperm : (ds'.map Definition.unplaced).Perm (ds.map Definition.unplaced) := by
    rw [hds, hds']
    exact h.perm.filterMap _
  have hordered : Scope.Ordered (ds'.map Definition.unplaced) := hds' ▸ h.ordered hds hrun
  obtain ⟨s', hrun', hagree⟩ := Scope.ofDefinitions_of_perm hrun hperm hordered
  exact ⟨s', (hscope' s').mpr hrun', hagree⟩

end Reordering

/-- The lines of a source in an order that keeps what has to be kept, joined again with line
feeds, have a system with the same equations, unknowns, guesses and bounds, and each name
stands for a parameter with the same value and expression. -/
theorem ofSource_unlines_of_reordering {units : Unit.Table} {source : Text} {p : Problem}
    {warnings : List Warning} {ls : List Text} (h : ofSource units source = .ok (p, warnings))
    (hls : Reordering units source ls) :
    ∃ p', ofSource units (unlines ls) = .ok (p', warnings) ∧ p'.equations = p.equations ∧
      p'.unknowns = p.unknowns ∧ p'.guesses = p.guesses ∧ p'.bounds = p.bounds ∧
      ∀ name, (p'.parameter? name).map (fun q => (q.value, q.expression)) =
        (p.parameter? name).map fun q => (q.value, q.expression) := by
  obtain ⟨s, hs, hsaid, hresult⟩ := ofSource_eq_ok_iff_said.mp h
  obtain ⟨s', hs', hagree⟩ := hls.exists_scope hs hsaid
  have hvalid := (reachable_scope? hs).valid
  have hvalid' := (reachable_scope? hs').valid
  have hread := saidBy?_congr hvalid hvalid' (hagree.value? hvalid hvalid') units
  have hnew : ofSource units (unlines ls) =
      .ok (ofStatements ((lines source).filterMap (saidBy? units s)) s'.parameters) := by
    refine ofSource_eq_ok_iff_said.mpr ⟨s', hs', hread ▸ hls.forall_saidBy? hsaid, ?_⟩
    rw [hread, hls.system_eq hs]
  cases hresult
  refine ⟨_, hnew, rfl, rfl, rfl, rfl, fun name => ?_⟩
  have hfound := congrArg (Option.map Prod.snd) (hagree.parameter?_unplaced hvalid hvalid' name)
  rw [Option.map_map, Option.map_map] at hfound
  calc
    _ = (s'.parameter? name).map (fun q => (q.value, q.expression)) :=
      congrArg (Option.map _) (hvalid'.find?_parameters name)
    _ = (s.parameter? name).map (fun q => (q.value, q.expression)) := hfound
    _ = _ := congrArg (Option.map _) (hvalid.find?_parameters name).symm

/-- For instance equations may stand above the parameters that they use, which stay in their order
where one uses the other. -/
theorem ofSource_unlines_fall :
    ∃ p p' warnings,
      ofSource ⟨[]⟩ "g: 9.8\nh: g\nguess 2 for t\nkeep t on [0, 5]\nh * t = u\nu = 3" =
        .ok (p, warnings) ∧ p.equations = ["(9.8) * t = u", "u = 3"] ∧
      ofSource ⟨[]⟩ "h * t = u\nkeep t on [0, 5]\ng: 9.8\nu = 3\nh: g\nguess 2 for t" =
        .ok (p', warnings) ∧
      p'.equations = p.equations ∧ p'.unknowns = p.unknowns ∧ p'.guesses = p.guesses ∧
      p'.bounds = p.bounds ∧ ∀ name, (p'.parameter? name).map (fun q => (q.value, q.expression)) =
        (p.parameter? name).map fun q => (q.value, q.expression) := by
  have hg : Scope.ofDefinitions [⟨1, "g: 9.8", "g", "9.8"⟩] =
      .ok (Scope.empty.push ⟨"g", 9.8, "9.8", 1⟩) :=
    Scope.ofDefinitions_num (by decide) (by decide +kernel) (eq_ok_of_toOption (by decide +kernel))
      (by decide +kernel)
  have hparse : Expr.parse "g" = .ok (.var "g") :=
    Expr.parse_eq_ok.mpr ⟨[(0, .name "g")], eq_ok_of_toOption (by decide +kernel),
      .expr (.term (.unary (.name "g")) .productsEnd) .sumsEnd⟩
  have hh : (Scope.empty.push ⟨"g", 9.8, "9.8", 1⟩).define ⟨2, "h: g", "h", "g"⟩ =
      .ok ((Scope.empty.push ⟨"g", 9.8, "9.8", 1⟩).push ⟨"h", 9.8, "g", 2⟩) := by
    refine Scope.define_eq_ok.mpr ⟨by decide, by decide +kernel, by decide +kernel, 9.8, ?_, rfl⟩
    rw [Expr.evaluate, hparse]
    exact eq_ok_of_toOption (by decide +kernel)
  have hrun := Scope.ofDefinitions_append [⟨1, "g: 9.8", "g", "9.8"⟩] ⟨2, "h: g", "h", "g"⟩
  rw [hg, ok_bind, hh] at hrun
  have htext : resolved? ⟨[]⟩ "g: 9.8\nh: g\nguess 2 for t\nkeep t on [0, 5]\nh * t = u\nu = 3" =
      some ("g: 9.8\nh: g\nguess 2 for t\nkeep t on [0, 5]\nh * t = u\nu = 3" : Text) := by
    decide +kernel
  have hdefinitions : Scope.definitions "g: 9.8\nh: g\nguess 2 for t\nkeep t on [0, 5]\nh * t = u\nu = 3" =
      [⟨1, "g: 9.8", "g", "9.8"⟩] ++ [⟨2, "h: g", "h", "g"⟩] := by decide +kernel
  have hs : scope? ⟨[]⟩ "g: 9.8\nh: g\nguess 2 for t\nkeep t on [0, 5]\nh * t = u\nu = 3" =
      some ((Scope.empty.push ⟨"g", 9.8, "9.8", 1⟩).push ⟨"h", 9.8, "g", 2⟩) := by
    rw [scope?, htext, Option.bind_some, hdefinitions, hrun]
    rfl
  have hsource := ofSource_eq_ok_iff_said.mpr ⟨_, hs, by decide +kernel, rfl⟩
  have hls : Reordering ⟨[]⟩ "g: 9.8\nh: g\nguess 2 for t\nkeep t on [0, 5]\nh * t = u\nu = 3"
      ["h * t = u", "keep t on [0, 5]", "g: 9.8", "u = 3", "h: g", "guess 2 for t"] :=
    reordering_of_words hs (by decide +kernel) (by decide +kernel) (by decide +kernel)
  obtain ⟨p', hp', hsame⟩ := ofSource_unlines_of_reordering hsource hls
  exact ⟨_, p', _, hsource, by decide +kernel, hp', hsame⟩

end Equate.Problem
