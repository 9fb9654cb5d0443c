import Equate.CommandLine.Run
import Equate.Proofs.Conversion.Tagless
import Equate.Proofs.Json.Indented
import Equate.Proofs.Json.Record
import Equate.Proofs.Solver.Call

/-!
# Emitting and solving agree

Both read the settings, the units and the source in the same order and make the system in the
same way. Solving checks the command and the limits in between, and limits that come from the
settings have passed their check when the settings were read. So without limits of its own it
hands over the request that is emitted, and what keeps the request from being emitted keeps it
from being handed over.
-/
namespace Equate
open Success

/-! ## Limits that are loaded -/

theorem Solver.Limits.valid_default : Solver.Limits.default.Valid :=
  ⟨by decide +kernel, by decide +kernel, by decide⟩

theorem Settings.valid_limits_of_read {t : Text} {settings : Settings}
    (h : Settings.read t = .ok settings) : settings.limits.Valid := by
  unfold read at h
  split at h
  · cases h
  · obtain ⟨⟨⟩, hcheck, h⟩ := bind_eq_ok.mp h
    cases h
    exact Solver.Limits.check_eq_ok.mp hcheck

theorem Files.exists_of_load_eq_ok {α : Type} {files : Files} {path : Text}
    {read : Text → Except Failure α} {a : α} (h : files.load path read = .ok a) :
    ∃ t, files.readText path = .ok t ∧ read t = .ok a := by
  obtain ⟨t, ht, h⟩ := bind_eq_ok.mp h
  refine ⟨t, ht, ?_⟩
  cases hread : read t with
  | error f => rw [hread] at h; cases h
  | ok b => rw [hread] at h; exact h

theorem Solver.Request.wellFormed_toJson (r : Solver.Request) : r.toJson.WellFormed := by
  have hequations : (Json.ofList Json.ofText r.equations).WellFormed :=
    Json.wellFormed_ofList fun t _ => Json.wellFormed_ofText t
  have hguesses := Json.wellFormed_ofMap r.guesses Json.wellFormed_ofFloat
  have hends : ∀ b : Bound, (Json.array [Json.ofFloat b.low, Json.ofFloat b.high]).WellFormed := by
    intro b
    refine .array ?_
    simp [Json.wellFormed_ofFloat]
  have hbounds := Json.wellFormed_ofMap r.bounds hends
  apply Json.wellFormed_ofFields
  simp [hequations, hguesses, hbounds, Json.wellFormed_ofFloat, Json.wellFormed_ofNat]

namespace CommandLine

/-! ## The stages of a run -/

/-- The command line of the solver: the one given for solving, or that of the settings. -/
def SolveOptions.command (o : SolveOptions) (settings : Settings) : List Text :=
  if o.solver = [] then settings.solverCommand else o.solver

/-- The limits of the search: each is the one given for solving, or that of the settings. -/
def SolveOptions.limits (o : SolveOptions) (settings : Settings) : Solver.Limits :=
  ⟨o.tolerance.getD settings.limits.tolerance, o.iterations.getD settings.limits.iterations⟩

/-- The limits that are given for solving pass their check. -/
structure SolveOptions.Valid (o : SolveOptions) : Prop where
  tolerance : ∀ x ∈ o.tolerance, x.isFinite = true ∧ 0 < x
  iterations : ∀ n ∈ o.iterations, 1 ≤ n

section
variable {files : Files} {s : Sources} {o : SolveOptions}

/-- The settings of a run. -/
def Sources.loadSettings (s : Sources) (files : Files) : Except Failure Settings :=
  match s.settings with
  | some path => files.load path Settings.read
  | none => .ok Settings.default

/-- The units of a run. -/
def Sources.loadUnits (s : Sources) (files : Files) (settings : Settings) :
    Except Failure Unit.Table :=
  match s.units <|> settings.unitsPath with
  | some path => files.load path Unit.Table.read
  | none => Unit.bundled

theorem load_eq (files : Files) (s : Sources) :
    load files s = s.loadSettings files >>= fun settings =>
      s.loadUnits files settings >>= fun units =>
        files.readText s.input >>= fun source => .ok (settings, units, source) := by
  unfold load Sources.loadSettings Sources.loadUnits
  cases s.settings <;>
  · refine bind_congr fun settings => ?_
    dsimp only
    cases s.units <|> settings.unitsPath <;> rfl

theorem valid_limits_of_loadSettings {settings : Settings}
    (h : s.loadSettings files = .ok settings) : settings.limits.Valid := by
  unfold Sources.loadSettings at h
  split at h
  · obtain ⟨t, -, hread⟩ := Files.exists_of_load_eq_ok h
    exact Settings.valid_limits_of_read hread
  · cases h
    exact Solver.Limits.valid_default

theorem valid_limits_of_load {settings : Settings} {units : Unit.Table} {source : Text}
    (h : load files s = .ok (settings, units, source)) : settings.limits.Valid := by
  rw [load_eq] at h
  obtain ⟨settings', hsettings, h⟩ := bind_eq_ok.mp h
  obtain ⟨units', -, h⟩ := bind_eq_ok.mp h
  obtain ⟨source', -, h⟩ := bind_eq_ok.mp h
  cases h
  exact valid_limits_of_loadSettings hsettings

theorem SolveOptions.Valid.limits (h : o.Valid) {settings : Settings}
    (hsettings : settings.limits.Valid) : (o.limits settings).Valid := by
  have htolerance : (o.limits settings).tolerance.isFinite = true ∧
      0 < (o.limits settings).tolerance := by
    unfold SolveOptions.limits
    cases hgiven : o.tolerance with
    | none => exact ⟨hsettings.finite, hsettings.positive⟩
    | some x => exact h.tolerance x hgiven
  refine ⟨htolerance.1, htolerance.2, ?_⟩
  unfold SolveOptions.limits
  cases hgiven : o.iterations with
  | none => exact hsettings.iterations
  | some n => exact h.iterations n hgiven

theorem limits_eq_of_none {settings : Settings} (htolerance : o.tolerance = none)
    (hiterations : o.iterations = none) : o.limits settings = settings.limits := by
  rw [SolveOptions.limits, htolerance, hiterations]
  rfl

theorem task_eq (files : Files) (s : Sources) (o : SolveOptions) :
    task files s o = load files s >>= fun loaded =>
      match o.command loaded.1 with
      | [] =>
        .error (.configuration "no solver command given; pass --solver or set solver_command")
      | program :: arguments => (o.limits loaded.1).check >>= fun _ =>
        Problem.ofSource loaded.2.1 loaded.2.2 >>= fun made =>
          .ok ⟨program, arguments, o.limits loaded.1, made.1, made.2⟩ := rfl

theorem exists_of_task_eq_ok {t : Task} (h : task files s o = .ok t) :
    ∃ settings units source, load files s = .ok (settings, units, source) ∧
      o.command settings = t.program :: t.arguments ∧ t.limits = o.limits settings ∧
      t.limits.Valid ∧ Problem.ofSource units source = .ok (t.problem, t.warnings) := by
  rw [task_eq] at h
  obtain ⟨⟨settings, units, source⟩, hload, h⟩ := bind_eq_ok.mp h
  refine ⟨settings, units, source, hload, ?_⟩
  dsimp only at h
  split at h
  · cases h
  · next program arguments hcommand =>
    obtain ⟨⟨⟩, hcheck, h⟩ := bind_eq_ok.mp h
    obtain ⟨⟨p, warnings⟩, hmade, h⟩ := bind_eq_ok.mp h
    cases h
    exact ⟨hcommand, rfl, Solver.Limits.check_eq_ok.mp hcheck, hmade⟩

/-- Emitting fails where loading fails, or the making of the system. -/
theorem emit_eq_error {request : Bool} {f : Failure} :
    emit files s request = .error f ↔ load files s = .error f ∨
      ∃ settings units source, load files s = .ok (settings, units, source) ∧
        Problem.ofSource units source = .error f := by
  have hemit : emit files s request = load files s >>= fun loaded =>
      Problem.ofSource loaded.2.1 loaded.2.2 >>= fun made =>
        .ok (printed (if request then (Solver.Request.ofProblem made.1 loaded.1.limits).toJson
          else made.1.toJson), made.2) := rfl
  rw [hemit, bind_eq_error]
  refine or_congr_right ⟨?_, ?_⟩
  · rintro ⟨⟨settings, units, source⟩, hload, h⟩
    rcases bind_eq_error.mp h with hmade | ⟨_, -, h⟩
    · exact ⟨settings, units, source, hload, hmade⟩
    · cases h
  · rintro ⟨settings, units, source, hload, hmade⟩
    exact ⟨_, hload, bind_eq_error.mpr (.inl hmade)⟩

/-- A failure of emitting is the failure of the task, if the checks in between pass. -/
theorem task_eq_error_of_emit {request : Bool} {f : Failure} (hvalid : o.Valid)
    (hcommand : ∀ loaded, load files s = .ok loaded → o.command loaded.1 ≠ [])
    (h : emit files s request = .error f) : task files s o = .error f := by
  rw [task_eq, bind_eq_error]
  rcases emit_eq_error.mp h with hload | ⟨settings, units, source, hload, hmade⟩
  · exact .inl hload
  · refine .inr ⟨_, hload, ?_⟩
    obtain ⟨program, arguments, hne⟩ := List.exists_cons_of_ne_nil (hcommand _ hload)
    have hcheck := Solver.Limits.check_eq_ok.mpr (hvalid.limits (valid_limits_of_load hload))
    rw [hne]
    dsimp only
    rw [hcheck, ok_bind, hmade, error_bind]

/-- What is emitted on request where there is a task. -/
theorem emit_eq_ok_of_task {t : Task} (htolerance : o.tolerance = none)
    (hiterations : o.iterations = none) (h : task files s o = .ok t) :
    emit files s true =
      .ok (printed (Solver.Request.ofProblem t.problem t.limits).toJson, t.warnings) := by
  obtain ⟨settings, units, source, hload, -, hlimits, -, hmade⟩ := exists_of_task_eq_ok h
  rw [limits_eq_of_none htolerance hiterations] at hlimits
  rw [hlimits, emit, hload]
  show (Problem.ofSource units source >>= _) = _
  rw [hmade]
  rfl

end

/-! ## What is started -/

section
variable {programs programs' : Solver.Programs} {files : Files}

/-- What is started in the course of solving: each command line with the input that it gets. -/
def started (programs : Solver.Programs) (files : Files) (s : Sources) (o : SolveOptions) :
    List (List Text × Bytes) :=
  match task files s o with
  | .error _ => []
  | .ok t => (t.call programs files).1.requests.map fun r => (t.program :: t.arguments, r.toBytes)

theorem Task.call_congr (t : Task)
    (h : ∀ r ∈ (t.call programs files).1.requests,
      programs' (t.program :: t.arguments) r.toBytes files =
        programs (t.program :: t.arguments) r.toBytes files) :
    t.call programs' files = t.call programs files := by
  have houtcome : (t.call programs' files).1 = (t.call programs files).1 :=
    Solver.call_congr _ fun r hr => congrArg (Solver.replyOf t.program) (h r hr)
  refine Prod.ext houtcome ?_
  show (t.call programs' files).1.requests.foldl _ files = (t.call programs files).1.requests.foldl _ files
  rw [houtcome]
  exact List.foldl_ext _ _ _ fun files' r hr => congrArg (filesAfter files') (h r hr)

theorem solve_congr {s : Sources} {o : SolveOptions}
    (h : ∀ x ∈ started programs files s o, programs' x.1 x.2 files = programs x.1 x.2 files) :
    solve programs' files s o = solve programs files s o := by
  unfold started at h
  unfold solve
  cases htask : task files s o with
  | error f => rfl
  | ok t =>
    rw [htask] at h
    dsimp only at h ⊢
    rw [t.call_congr fun r hr => h _ (List.mem_map_of_mem hr)]

/-- A task starts its solver with the request for its system, if that has an equation. -/
theorem started_of_task (programs : Solver.Programs) {s : Sources} {o : SolveOptions} {t : Task}
    (h : task files s o = .ok t) :
    started programs files s o =
      if t.problem.equations = [] then []
      else [(t.program :: t.arguments, (Solver.Request.ofProblem t.problem t.limits).toBytes)] := by
  obtain ⟨settings, units, source, -, -, -, hvalid, -⟩ := exists_of_task_eq_ok h
  rw [started, h]
  show (Solver.call _ t.limits t.problem).requests.map _ = _
  split
  · next hempty => rw [Solver.call_of_empty _ hvalid hempty]; rfl
  · next hne => rw [Solver.requests_call _ hvalid hne]; rfl

theorem exists_task_of_mem_started {s : Sources} {o : SolveOptions} {x : List Text × Bytes}
    (h : x ∈ started programs files s o) :
    ∃ t, task files s o = .ok t ∧
      x = (t.program :: t.arguments, (Solver.Request.ofProblem t.problem t.limits).toBytes) := by
  cases htask : task files s o with
  | error f =>
    rw [started, htask] at h
    exact absurd h List.not_mem_nil
  | ok t =>
    rw [started_of_task programs htask] at h
    split at h
    · exact absurd h List.not_mem_nil
    · exact ⟨t, rfl, List.mem_singleton.mp h⟩

end

theorem parse?_printed {d : Json} (h : d.WellFormed) : Json.parse? (printed d) = some d :=
  h.parse?_indented

/-- What the two have in common for all sources, settings and units. Without limits of its own
solving hands over the request that is emitted for the same files, as a document that is read as
the same one. With valid limits and a command it fails where emitting fails, with the same
failure, and starts nothing. The programs take part in solving by what they do when they are
started, so where nothing is started they are never asked. -/
theorem solve_agrees_emit (programs : Solver.Programs) (files : Files) (s : Sources)
    (o : SolveOptions) :
    (o.tolerance = none → o.iterations = none →
      ∀ command input, (command, input) ∈ started programs files s o →
        ∃ (request : Solver.Request) (warnings : List Warning),
          (Invocation.emit s true).run programs files = done (printed request.toJson) warnings files ∧
          Json.parse? (printed request.toJson) = some request.toJson ∧
          input = request.toBytes ∧
          (Text.ofBytes? input).bind Json.parse? = some request.toJson) ∧
    (o.Valid → (∀ loaded, load files s = .ok loaded → o.command loaded.1 ≠ []) →
      ∀ request f, ((Invocation.emit s request).run programs files).failure = some f →
        (Invocation.solve s o).run programs files = failed f [] files ∧
        started programs files s o = []) ∧
    ∀ programs', (∀ command input, (command, input) ∈ started programs files s o →
        programs' command input files = programs command input files) →
      (Invocation.solve s o).run programs' files = (Invocation.solve s o).run programs files := by
  refine ⟨fun htolerance hiterations command input hstarted => ?_,
    fun hvalid hcommand request f hfailure => ?_, fun programs' h => solve_congr fun x => h x.1 x.2⟩
  · obtain ⟨t, htask, hx⟩ := exists_task_of_mem_started hstarted
    obtain ⟨rfl, rfl⟩ := Prod.ext_iff.mp hx
    have hrequest := Solver.Request.wellFormed_toJson (.ofProblem t.problem t.limits)
    refine ⟨.ofProblem t.problem t.limits, t.warnings, ?_, parse?_printed hrequest, rfl, ?_⟩
    · rw [Invocation.run, emit_eq_ok_of_task htolerance hiterations htask]
    · rw [Solver.Request.toBytes, Text.ofBytes?_toBytes, Option.bind_some, hrequest.parse?_compact]
  · have hemit : emit files s request = .error f := by
      rw [Invocation.run] at hfailure
      split at hfailure
      · next g hemit => rw [hemit, Option.some.inj hfailure]
      · cases hfailure
    have htask := task_eq_error_of_emit hvalid hcommand hemit
    exact ⟨by rw [Invocation.run, solve, htask], by rw [started, htask]⟩

/-- A configuration with the required categories and no units in them. -/
def bareUnits : Json := Json.ofFields (Unit.Table.required.map fun name => (name, .object []))

/-- A source of one line beside this configuration. -/
def oneLine : Files :=
  ((Files.mk ∅ []).put ["units"] (.file (Text.toBytes (Json.compact bareUnits)) false)).put
    ["line"] (.file (Text.toBytes "x = 1") false)

theorem wellFormed_bareUnits : bareUnits.WellFormed := by
  have hempty : (Json.object []).WellFormed :=
    .object (fun _ h => absurd h List.not_mem_nil) fun _ h => absurd h List.not_mem_nil
  apply Json.wellFormed_ofFields
  rw [List.forall_mem_map]
  exact fun _ _ => hempty

theorem load_oneLine (path : Text) :
    ∃ units, load oneLine ⟨path, some "units", none⟩ =
      oneLine.readText path >>= fun source => .ok (Settings.default, units, source) := by
  have hfile : oneLine.readText "units" = .ok (Json.compact bareUnits) :=
    eq_ok_of_toOption (by decide +kernel)
  have hload : ((Json.evaluate? Json.depthLimit bareUnits).map fun value =>
      (Unit.Table.load value).toOption.isSome) = some true := by decide +kernel
  obtain ⟨value, hvalue, hsome⟩ := Option.map_eq_some_iff.mp hload
  obtain ⟨units, htable⟩ := Option.isSome_iff_exists.mp hsome
  have hread : Unit.Table.read (Json.compact bareUnits) = .ok units := by
    rw [Unit.Table.read, wellFormed_bareUnits.parse?_compact, Option.bind_some, hvalue]
    exact eq_ok_of_toOption htable
  have hunits : oneLine.load "units" Unit.Table.read = .ok units := by
    rw [Files.load, hfile, ok_bind, hread]
    rfl
  refine ⟨units, ?_⟩
  rw [load_eq]
  show (oneLine.load "units" Unit.Table.read >>= _) = _
  rw [hunits, ok_bind]

theorem ofSource_line (units : Unit.Table) :
    Problem.ofSource units "x = 1" =
      .ok (Problem.Readings.collect ⟨[], [], ["x = 1"]⟩ Scope.empty) := by
  have htags : Conversion.resolve units.conversion "x = 1" = .ok "x = 1" :=
    Conversion.resolve_of_not_hasTag (Conversion.tags_eq_nil_iff.mp (by decide +kernel))
  exact Problem.ofSource_of_toOption "x = 1" _ (by rw [htags]; rfl) rfl (by decide +kernel)
    (by decide +kernel) (by decide +kernel) (by decide +kernel)

theorem exists_task_oneLine :
    ∃ t, task oneLine ⟨"line", some "units", none⟩ ⟨["solver"], none, none, none⟩ = .ok t ∧
      t.program :: t.arguments = [("solver" : Text)] ∧ t.problem.equations = [("x = 1" : Text)] := by
  obtain ⟨units, hload⟩ := load_oneLine "line"
  have hfile : oneLine.readText "line" = .ok "x = 1" := eq_ok_of_toOption (by decide +kernel)
  rw [hfile, ok_bind] at hload
  obtain ⟨p, warnings, hmade, hequations⟩ : ∃ p warnings,
      Problem.ofSource units "x = 1" = .ok (p, warnings) ∧ p.equations = [("x = 1" : Text)] :=
    ⟨_, _, ofSource_line units, rfl⟩
  refine ⟨⟨"solver", [], .default, p, warnings⟩, ?_, rfl, hequations⟩
  rw [task_eq, hload, ok_bind]
  show (Solver.Limits.check .default >>= fun _ => Problem.ofSource units "x = 1" >>= _) = _
  rw [Solver.Limits.check_eq_ok.mpr Solver.Limits.valid_default, ok_bind, hmade]
  rfl

/-- Programs that end well without an answer. -/
def silent : Solver.Programs := fun _ _ files => .ok ⟨.exited 0, [], [], 0, files⟩

/-- For instance a solver gets what is emitted for the line, and is not started for a source that
is not there. -/
theorem solve_agrees_emit_oneLine :
    (∃ (request : Solver.Request) (input : Bytes),
      ([("solver" : Text)], input) ∈ started silent oneLine ⟨"line", some "units", none⟩
        ⟨["solver"], none, none, none⟩ ∧
      input = request.toBytes ∧
      ((Invocation.emit ⟨"line", some "units", none⟩ true).run silent oneLine).output =
        printed request.toJson) ∧
    started silent oneLine ⟨"absent", some "units", none⟩ ⟨["solver"], none, none, none⟩ = [] := by
  constructor
  · obtain ⟨t, htask, hcommand, hequations⟩ := exists_task_oneLine
    have hstarted := started_of_task silent htask
    rw [if_neg (by rw [hequations]; exact List.cons_ne_nil _ _), hcommand] at hstarted
    have hmem := hstarted ▸ List.mem_singleton_self _
    obtain ⟨request, warnings, hrun, -, hinput, -⟩ := (solve_agrees_emit silent oneLine
      ⟨"line", some "units", none⟩ ⟨["solver"], none, none, none⟩).1 rfl rfl _ _ hmem
    exact ⟨request, _, hmem, hinput, by rw [hrun]; rfl⟩
  · obtain ⟨units, hload⟩ := load_oneLine "absent"
    have hfile : oneLine.readText "absent" = .error (.file "open" "absent" Obstacle.missing.message) :=
      eq_error_of_failure? (by decide +kernel)
    rw [hfile, error_bind] at hload
    have hemit : emit oneLine ⟨"absent", some "units", none⟩ true =
        .error (.file "open" "absent" Obstacle.missing.message) := emit_eq_error.mpr (.inl hload)
    exact ((solve_agrees_emit silent oneLine ⟨"absent", some "units", none⟩
      ⟨["solver"], none, none, none⟩).2.1 ⟨nofun, nofun⟩ (fun _ _ => List.cons_ne_nil _ _) true
      (.file "open" "absent" Obstacle.missing.message) (by rw [Invocation.run, hemit]; rfl)).2

end CommandLine
end Equate
