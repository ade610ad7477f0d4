import ServiceStubs.Proofs.Run.Dependence

/-!
# What a run notices

Each stage of a run leaves notices of one kind, and what it leaves can be told from what it is given
and from what it gives back.  So the log of a run accounts for its report: every failure is noticed,
in the order of the stages, and nothing is noticed as a failure in a run that does not fail.
-/

namespace ServiceStubs

namespace Notice

/-- Whether a notice tells of a failure. -/
def isFailure : Notice → Bool
  | severalConfigs _ _ => false
  | unnamedClass _ => false
  | configMalformed => true
  | pipelineFailed _ _ => true
  | runFailed _ _ => true
  | unitsClash => true

/-- The id that a pipeline failed with. -/
def failureId? : Notice → Option String
  | pipelineFailed _ id => some id
  | _ => none

end Notice

/-! ## The configuration -/

namespace Config

/-- The notice that there are several configurations, with the path of the first and their
number. -/
def severalNotices (texts : List AuxiliaryText) : List Notice :=
  match texts.filter (·.hasSuffix fileName) with
  | first :: second :: more => [.severalConfigs first.path (first :: second :: more).length]
  | _ => []

theorem notices_resolve (texts : List AuxiliaryText) :
    (resolve texts).notices = severalNotices texts := by
  have hfind : AuxiliaryText.find? texts fileName =
      (texts.filter (·.hasSuffix fileName)).head? := List.head?_filter.symm
  rw [resolve, severalNotices, hfind]
  generalize texts.filter (·.hasSuffix fileName) = found
  rcases found with _ | ⟨first, _ | ⟨second, more⟩⟩
  · rfl
  · rfl
  · have hseveral : 1 < (first :: second :: more).length := by simp
    simp only [List.head?_cons, if_pos hseveral]
    rfl

theorem severalNotices_of_find?_eq_none {texts : List AuxiliaryText}
    (h : AuxiliaryText.find? texts fileName = none) : severalNotices texts = [] := by
  have hnone : texts.filter (·.hasSuffix fileName) = [] := by
    rw [List.filter_eq_nil_iff]
    exact List.find?_eq_none.mp h
  rw [severalNotices, hnone]

theorem any_isFailure_severalNotices (texts : List AuxiliaryText) :
    (severalNotices texts).any Notice.isFailure = false := by
  unfold severalNotices
  split <;> rfl

theorem failureIds_severalNotices (texts : List AuxiliaryText) :
    (severalNotices texts).filterMap Notice.failureId? = [] := by
  unfold severalNotices
  split <;> rfl

/-- The public classes without a name in the namespace that a configuration names for services. -/
def unnamedClasses (config : Config) (snapshot : Snapshot) : List ClassDecl :=
  match config.servicesNamespace with
  | some services => snapshot.classes.filter fun c =>
      c.scope = services ∧ c.visibility = .everywhere ∧ c.name = ""
  | none => []

theorem any_isFailure_unnamedClass (classes : List ClassDecl) :
    (classes.map fun c => Notice.unnamedClass c.scope).any Notice.isFailure = false := by
  rw [List.any_map]
  exact List.any_eq_false.mpr fun c _ => nofun

theorem failureIds_unnamedClass (classes : List ClassDecl) :
    (classes.map fun c => Notice.unnamedClass c.scope).filterMap Notice.failureId? = [] := by
  rw [List.filterMap_map]
  exact List.filterMap_eq_nil_iff.mpr fun c _ => rfl

end Config

theorem Request.notices_resolveConfig (request : Request) :
    request.resolveConfig.notices = Config.severalNotices request.texts ++
      match (Config.resolve request.texts).value with
      | .ok _ => []
      | .error _ => [.configMalformed] := by
  rw [resolveConfig, Noted.notices_bind, Config.notices_resolve]
  cases (Config.resolve request.texts).value <;> rfl

/-! ## Pipelines -/

theorem Extraction.notices_ofClasses (services : String) (target : Option String)
    (cs : List ClassDecl) :
    (ofClasses services target cs).notices =
      (cs.filter fun c => c.scope = services ∧ c.visibility = .everywhere ∧ c.name = "").map
        fun c => .unnamedClass c.scope := by
  induction cs with
  | nil => rfl
  | cons c cs ih =>
    rw [ofClasses]
    by_cases hcandidate : c.scope = services ∧ c.visibility = .everywhere
    · by_cases hname : c.name = ""
      · simp [isCandidate, hcandidate, hname, ih]
      · simp [isCandidate, hcandidate, hname, ih]
    · have hskipped : ¬ (c.scope = services ∧ c.visibility = .everywhere ∧ c.name = "") :=
        fun h => hcandidate ⟨h.1, h.2.1⟩
      simpa [isCandidate, hcandidate, hskipped] using ih

namespace Outcome

/-- The notice of a pipeline that failed. -/
def failureNotices (pipeline : Pipeline) : Outcome → List Notice
  | failed d => [.pipelineFailed pipeline d.id]
  | _ => []

theorem notices_ofResult (pipeline : Pipeline) (result : Except Fault (List GeneratedUnit)) :
    (ofResult pipeline result).notices =
      (ofResult pipeline result).value.failureNotices pipeline := by
  cases result <;> rfl

theorem any_isFailure_failureNotices (pipeline : Pipeline) (o : Outcome) :
    (o.failureNotices pipeline).any Notice.isFailure = o.isFailed := by
  cases o <;> rfl

theorem failureIds_failureNotices (pipeline : Pipeline) (o : Outcome) :
    (o.failureNotices pipeline).filterMap Notice.failureId? =
      (o.diagnostic?.map Diagnostic.id).toList := by
  cases o <;> rfl

theorem eq_failed {o : Outcome} (h : o.isFailed = true) : ∃ d, o = .failed d := by
  cases o with
  | failed d => exact ⟨d, rfl⟩
  | idle reason => cases h
  | registered units => cases h

theorem eq_idle {o : Outcome} (hfailed : ¬ o.isFailed = true) (h : ¬ o.isRegistered = true) :
    ∃ reason, o = .idle reason := by
  cases o with
  | idle reason => exact ⟨reason, rfl⟩
  | failed d => exact absurd rfl hfailed
  | registered units => exact absurd rfl h

end Outcome

namespace Pipeline

variable (renderer : Renderer) (config : Config) (request : Request) (wording : Wording)

theorem notices_runModel :
    (runModel renderer config request).notices =
      ((config.unnamedClasses request.declarations).map fun c => .unnamedClass c.scope) ++
        (runModel renderer config request).value.failureNotices .serviceModel := by
  rw [runModel, Config.unnamedClasses]
  cases config.servicesNamespace with
  | none => rfl
  | some services =>
    dsimp only
    rw [Noted.notices_bind, Noted.value_bind, Outcome.notices_ofResult, Extraction.extract,
      Extraction.notices_ofClasses]

theorem notices_runControllers :
    (runControllers renderer config request wording).notices =
      (runControllers renderer config request wording).value.failureNotices .controllers := by
  unfold runControllers
  split
  · rfl
  · split
    · rfl
    · exact Outcome.notices_ofResult _ _
    · exact Outcome.notices_ofResult _ _

end Pipeline

/-! ## The report -/

namespace Report

/-- The notice on the whole of a run: a pipeline failed, and the units of the other are dropped, or
only the names of the units clash. -/
def closingNotices (model controllers : Outcome) (report : Report) : List Notice :=
  if model.isFailed = true ∨ controllers.isFailed = true then
    [.runFailed report.diagnostics.length (model.units ++ controllers.units).length]
  else if ((model.units ++ controllers.units).map GeneratedUnit.name).Nodup then []
  else [.unitsClash]

variable {model controllers : Outcome} {report : Report}

theorem notices_combine_of_failed
    (hfailed : model.isFailed = true ∨ controllers.isFailed = true) :
    (combine model controllers).notices =
      [.runFailed (combine model controllers).value.diagnostics.length
        (model.units ++ controllers.units).length] := by
  have hunits := flatMap_units model controllers
  have hdiagnostics : ([model, controllers].filterMap Outcome.diagnostic?).isEmpty = false := by
    rcases hfailed with h | h
    · obtain ⟨d, rfl⟩ := Outcome.eq_failed h
      rfl
    · obtain ⟨d, rfl⟩ := Outcome.eq_failed h
      cases model <;> rfl
  simp only [combine, hunits, hdiagnostics]
  rfl

theorem notices_combine_of_registered (hmodel : model.isFailed = false)
    (hcontrollers : controllers.isFailed = false)
    (hsome : model.isRegistered = true ∨ controllers.isRegistered = true) :
    (combine model controllers).notices =
      if ((model.units ++ controllers.units).map GeneratedUnit.name).Nodup then []
      else [.unitsClash] := by
  rcases combine_of_registered hmodel hcontrollers hsome with
    ⟨hnodup, hcombine⟩ | ⟨name, hname, hcombine⟩
  · rw [hcombine, if_pos hnodup]
  · rw [hcombine, if_neg hname.not_nodup]

theorem notices_combine (model controllers : Outcome) :
    (combine model controllers).notices =
      closingNotices model controllers (combine model controllers).value := by
  rw [closingNotices]
  split
  · next hfailed => exact notices_combine_of_failed hfailed
  · next hfailed =>
    obtain ⟨hmodel, hcontrollers⟩ := not_or.mp hfailed
    by_cases hsome : model.isRegistered = true ∨ controllers.isRegistered = true
    · exact notices_combine_of_registered (Bool.eq_false_iff.mpr hmodel)
        (Bool.eq_false_iff.mpr hcontrollers) hsome
    · obtain ⟨hidle, hidle'⟩ := not_or.mp hsome
      obtain ⟨reason, rfl⟩ := Outcome.eq_idle hmodel hidle
      obtain ⟨reason', rfl⟩ := Outcome.eq_idle hcontrollers hidle'
      rfl

theorem failureIds_closingNotices (model controllers : Outcome) (report : Report) :
    (closingNotices model controllers report).filterMap Notice.failureId? = [] := by
  unfold closingNotices
  split
  · rfl
  · split <;> rfl

theorem any_isFailure_closingNotices :
    (closingNotices model controllers report).any Notice.isFailure = true ↔
      (model.isFailed = true ∨ controllers.isFailed = true) ∨
        ¬ ((model.units ++ controllers.units).map GeneratedUnit.name).Nodup := by
  unfold closingNotices
  split
  · next hfailed => exact ⟨fun _ => .inl hfailed, fun _ => rfl⟩
  · next hfailed =>
    split
    · next hnodup => exact ⟨nofun, fun h => h.elim (absurd · hfailed) (absurd hnodup)⟩
    · next hnodup => exact ⟨fun _ => .inr hnodup, fun _ => rfl⟩

/-- A report is that of a failure exactly if it is noticed as one in the end. -/
theorem Settles.state_eq_failed_iff (h : Settles model controllers report) :
    report.state = .failed ↔
      (closingNotices model controllers report).any Notice.isFailure = true := by
  rw [any_isFailure_closingNotices]
  cases h with
  | bothFailed d e => exact ⟨fun _ => .inl (.inl rfl), fun _ => rfl⟩
  | modelFailed d => exact ⟨fun _ => .inl (.inl rfl), fun _ => rfl⟩
  | controllersFailed e => exact ⟨fun _ => .inl (.inr rfl), fun _ => rfl⟩
  | bothIdle => simp [Outcome.isFailed, Outcome.units]
  | clash _ _ hname => exact ⟨fun _ => .inr hname.not_nodup, fun _ => rfl⟩
  | registered hmodel hcontrollers _ hnodup =>
    rw [hmodel, hcontrollers]
    exact ⟨nofun, fun h => h.elim nofun (absurd hnodup)⟩

/-- If a pipeline failed, the diagnostics are those of the pipelines. -/
theorem Settles.diagnostics_of_failed (h : Settles model controllers report)
    (hfailed : model.isFailed = true ∨ controllers.isFailed = true) :
    report.diagnostics = model.diagnostic?.toList ++ controllers.diagnostic?.toList := by
  cases h with
  | bothFailed d e => rfl
  | modelFailed d hcontrollers => rw [Outcome.diagnostic?_eq_none hcontrollers]; rfl
  | controllersFailed e hmodel => rw [Outcome.diagnostic?_eq_none hmodel]; rfl
  | bothIdle => rcases hfailed with h | h <;> cases h
  | clash hmodel hcontrollers =>
    rw [hmodel, hcontrollers] at hfailed
    rcases hfailed with h | h <;> cases h
  | registered hmodel hcontrollers =>
    rw [hmodel, hcontrollers] at hfailed
    rcases hfailed with h | h <;> cases h

end Report

/-! ## The run -/

namespace Request

variable {request : Request} {config : Config}

theorem notices_run_of_error {fault : Fault}
    (h : (Config.resolve request.texts).value = .error fault) (renderer : Renderer)
    (wording : Wording) : (request.run renderer wording).notices =
      Config.severalNotices request.texts ++ [.configMalformed] := by
  rw [run, Noted.notices_bind, notices_resolveConfig, value_resolveConfig, h]
  exact List.append_nil _

theorem notices_run_of_none (h : (Config.resolve request.texts).value = .ok none)
    (renderer : Renderer) (wording : Wording) :
    (request.run renderer wording).notices = Config.severalNotices request.texts := by
  rw [run, Noted.notices_bind, notices_resolveConfig, value_resolveConfig, h]
  simp only [Noted.notices_pure, List.append_nil]

theorem run_of_none (h : (Config.resolve request.texts).value = .ok none) (renderer : Renderer)
    (wording : Wording) : (request.run renderer wording).value = .idle := by
  rw [run, Noted.value_bind, value_resolveConfig, h]
  rfl

theorem notices_run_of_some (h : (Config.resolve request.texts).value = .ok (some config))
    (renderer : Renderer) (wording : Wording) :
    (request.run renderer wording).notices = Config.severalNotices request.texts ++
      ((config.unnamedClasses request.declarations).map fun c => .unnamedClass c.scope) ++
      (request.runModel renderer).value.failureNotices .serviceModel ++
      (request.runControllers renderer wording).value.failureNotices .controllers ++
      Report.closingNotices (request.runModel renderer).value
        (request.runControllers renderer wording).value (request.run renderer wording).value := by
  have hvalue := resolveConfig_eq_ok.mpr h
  have hmodel : (request.runModel renderer).value =
      (Pipeline.runModel renderer config request).value := by
    rw [runModel, runPipeline, Noted.value_bind, hvalue]
  have hcontrollers : (request.runControllers renderer wording).value =
      (Pipeline.runControllers renderer config request wording).value := by
    rw [runControllers, runPipeline, Noted.value_bind, hvalue]
  have hrun : (request.run renderer wording).value =
      (Report.combine (request.runModel renderer).value
        (request.runControllers renderer wording).value).value := by
    rw [run, Noted.value_bind, hvalue, hmodel, hcontrollers]
    rfl
  rw [hrun, ← Report.notices_combine, hmodel, hcontrollers, run, Noted.notices_bind,
    notices_resolveConfig, hvalue, h]
  simp only [Noted.notices_bind, Pipeline.notices_runModel, Pipeline.notices_runControllers,
    List.append_nil, List.append_assoc]

/-- Only the notices on pipelines have ids, and these are in the order of the diagnostics. -/
theorem failureIds_run_of_some (h : (Config.resolve request.texts).value = .ok (some config))
    (renderer : Renderer) (wording : Wording)
    (hfailed : (request.runModel renderer).value.isFailed = true ∨
      (request.runControllers renderer wording).value.isFailed = true) :
    (request.run renderer wording).notices.filterMap Notice.failureId? =
      (request.run renderer wording).value.diagnostics.map Diagnostic.id := by
  have hsettles := run_settles_of_ok (resolveConfig_eq_ok.mpr h) renderer wording
  rw [notices_run_of_some h, hsettles.diagnostics_of_failed hfailed]
  simp only [List.filterMap_append, Config.failureIds_severalNotices,
    Config.failureIds_unnamedClass, Outcome.failureIds_failureNotices,
    Report.failureIds_closingNotices, List.map_append, List.nil_append, List.append_nil,
    Option.toList_map]

/-- A pipeline that failed is noticed once more in the end, so the end decides. -/
theorem state_run_of_some (h : (Config.resolve request.texts).value = .ok (some config))
    (renderer : Renderer) (wording : Wording) :
    (request.run renderer wording).value.state = .failed ↔
      (request.run renderer wording).notices.any Notice.isFailure = true := by
  have hsettles := run_settles_of_ok (resolveConfig_eq_ok.mpr h) renderer wording
  rw [hsettles.state_eq_failed_iff, notices_run_of_some h]
  simp only [List.any_append, Config.any_isFailure_severalNotices,
    Config.any_isFailure_unnamedClass, Outcome.any_isFailure_failureNotices, Bool.or_eq_true,
    Bool.false_eq_true, false_or, or_assoc]
  rw [Report.any_isFailure_closingNotices]
  tauto

end Request

/-- The log of a run.  First comes a notice if there are several configurations.  If the one that
is used cannot be read, a notice on that is the last; if there is none, there are no notices at all.
Otherwise there are notices on the public classes without a name in the services namespace, on
either pipeline if it failed, with the ids that are reported, and on the whole of the run if it
failed: with counts if a pipeline did, and without if only the names of the units clash.  So a run
fails exactly if it leaves a notice on a failure. -/
theorem run_notices (renderer : Renderer) (request : Request) (wording : Wording) :
    let model := (request.runModel renderer).value
    let controllers := (request.runControllers renderer wording).value
    let report := (request.run renderer wording).value
    let log := (request.run renderer wording).notices
    ((∃ path e, Config.Malformed request.texts path e ∧
        log = Config.severalNotices request.texts ++ [.configMalformed]) ∨
      (AuxiliaryText.find? request.texts Config.fileName = none ∧ log = []) ∨
      ∃ config, request.IsConfigured config ∧
        log = Config.severalNotices request.texts ++
          ((config.unnamedClasses request.declarations).map fun c => .unnamedClass c.scope) ++
          model.failureNotices .serviceModel ++ controllers.failureNotices .controllers ++
          report.closingNotices model controllers ∧
        (model.isFailed = true ∨ controllers.isFailed = true →
          log.filterMap Notice.failureId? = report.diagnostics.map Diagnostic.id)) ∧
      (report.state = .failed ↔ ∃ notice ∈ log, notice.isFailure = true) := by
  intro model controllers report log
  rw [← List.any_eq_true]
  rcases Config.resolve_cases request.texts with ⟨path, e, hmalformed, hvalue⟩ |
    ⟨-, config, hvalue⟩
  · have hlog : log = _ := Request.notices_run_of_error hvalue renderer wording
    have hresolve := request.value_resolveConfig
    rw [hvalue] at hresolve
    refine ⟨.inl ⟨path, e, hmalformed, hlog⟩, ?_⟩
    have hreport : report = _ := (Request.runs_of_error hresolve renderer wording).2.2
    rw [hlog, hreport]
    simp [Report.failed, Notice.isFailure]
  · cases config with
    | none =>
      have habsent : AuxiliaryText.find? request.texts Config.fileName = none := by
        rcases Config.value_resolve_eq_ok.mp hvalue with ⟨habsent, -⟩ | ⟨_, _, -, -, hsome⟩
        · exact habsent
        · cases hsome
      have hlog : log = [] := by
        rw [← Config.severalNotices_of_find?_eq_none habsent]
        exact Request.notices_run_of_none hvalue renderer wording
      refine ⟨.inr (.inl ⟨habsent, hlog⟩), ?_⟩
      have hreport : report = .idle := Request.run_of_none hvalue renderer wording
      rw [hlog, hreport]
      exact ⟨nofun, nofun⟩
    | some config =>
      have hconfig : request.IsConfigured config :=
        Request.isConfigured_of_resolveConfig (Request.resolveConfig_eq_ok.mpr hvalue)
      refine ⟨.inr (.inr ⟨config, hconfig, ?_, ?_⟩), ?_⟩
      · exact Request.notices_run_of_some hvalue renderer wording
      · exact Request.failureIds_run_of_some hvalue renderer wording
      · exact Request.state_run_of_some hvalue renderer wording

/-- Two configurations, a class without a name, and a schema that breaks off: the unit of the model
is dropped for the failure of the controllers. -/
theorem run_notices_several :
    let config : AuxiliaryText :=
      ⟨"app/analyzer.config.json",
        "\x7b\"JsonSchema\":\"api.json\",\"ControllerServicesNamespace\":\"svc\"\x7d"⟩
    let texts : List AuxiliaryText := [config, ⟨"analyzer.config.json", ""⟩, ⟨"api.json", "["⟩]
    let program : Snapshot :=
      ⟨[⟨"a.rs", [⟨"", "svc", .everywhere, []⟩, ⟨"Ledger", "svc", .everywhere, []⟩]⟩]⟩
    let request : Request := ⟨"app", program, texts⟩
    let log := (request.run .builtIn).notices
    let report := (request.run .builtIn).value
    log = [.severalConfigs "app/analyzer.config.json" 2, .unnamedClass "svc",
        .pipelineFailed .controllers "SG0002", .runFailed 1 1] ∧
      (request.runControllers .builtIn).value.isFailed = true ∧
      log.filterMap Notice.failureId? = report.diagnostics.map Diagnostic.id ∧
      report.state = .failed := by
  intro config texts program request log report
  have hlog : log = [.severalConfigs "app/analyzer.config.json" 2, .unnamedClass "svc",
      .pipelineFailed .controllers "SG0002", .runFailed 1 1] := by
    decide +kernel
  have hfailed : (request.runControllers .builtIn).value.isFailed = true := by
    decide +kernel
  obtain ⟨⟨path, e, -, hmalformed⟩ | ⟨-, hempty⟩ | ⟨found, -, -, hids⟩, hstate⟩ :=
    run_notices .builtIn request .plain
  · have hlast := congrArg List.getLast? (hlog.symm.trans hmalformed)
    rw [List.getLast?_append] at hlast
    cases hlast
  · exact absurd (hlog.symm.trans hempty) nofun
  · have hmem : Notice.runFailed 1 1 ∈ log := by
      rw [hlog]
      decide
    exact ⟨hlog, hfailed, hids (.inr hfailed), hstate.mpr ⟨_, hmem, rfl⟩⟩

end ServiceStubs
