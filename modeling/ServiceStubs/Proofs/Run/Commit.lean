import ServiceStubs.Proofs.Staging
import ServiceStubs.Run.Basic

/-!
# What a run commits

A run and its two pipelines read one configuration.  If it cannot be read, all three fail for that
reason; otherwise the outcomes of the two pipelines decide the report of the run, and its units are
those of both pipelines or none at all.
-/

namespace ServiceStubs

/-! ## The configuration -/

namespace Config

/-- There is a configuration among the texts, and it cannot be read. -/
def Malformed (texts : List AuxiliaryText) (path : String) (e : Json.Error) : Prop :=
  ∃ found, AuxiliaryText.find? texts fileName = some found ∧ found.path = path ∧
    Json.readDocument shape.read found.text = .error e

theorem value_resolve (texts : List AuxiliaryText) :
    (resolve texts).value = match AuxiliaryText.find? texts fileName with
      | none => .ok none
      | some found => (read found.path found.text).map some := by
  rw [resolve]
  cases AuxiliaryText.find? texts fileName with
  | none => rfl
  | some found =>
    dsimp only
    split <;> rfl

/-- What is resolved: nothing without a configuration, and what the first one says otherwise. -/
theorem value_resolve_eq_ok {texts : List AuxiliaryText} {config : Option Config} :
    (resolve texts).value = .ok config ↔
      (AuxiliaryText.find? texts fileName = none ∧ config = none) ∨
      ∃ found c, AuxiliaryText.find? texts fileName = some found ∧
        read found.path found.text = .ok c ∧ config = some c := by
  rw [value_resolve]
  cases hfind : AuxiliaryText.find? texts fileName with
  | none => simp [eq_comm]
  | some found =>
    dsimp only
    rw [map_eq_ok]
    simp [eq_comm]

theorem resolve_cases (texts : List AuxiliaryText) :
    (∃ path e, Malformed texts path e ∧
      (resolve texts).value = .error (.configMalformed path e.message)) ∨
    (∀ path e, ¬ Malformed texts path e) ∧ ∃ config, (resolve texts).value = .ok config := by
  rw [value_resolve]
  cases hfind : AuxiliaryText.find? texts fileName with
  | none =>
    right
    refine ⟨?_, none, rfl⟩
    rintro path e ⟨found, hfound, -⟩
    rw [hfind] at hfound
    cases hfound
  | some found =>
    cases hread : Json.readDocument shape.read found.text with
    | error e =>
      left
      refine ⟨found.path, e, ⟨found, hfind, rfl, hread⟩, ?_⟩
      simp only [read, hread]
      rfl
    | ok config =>
      right
      refine ⟨?_, some config, ?_⟩
      · rintro path e ⟨other, hother, -, he⟩
        obtain rfl : found = other := Option.some.inj (hfind.symm.trans hother)
        rw [hread] at he
        cases he
      · simp only [read, hread]
        rfl

end Config

/-! ## Outcomes -/

namespace Outcome

theorem diagnostic?_eq_none {o : Outcome} (h : o.isFailed = false) : o.diagnostic? = none := by
  cases o with
  | failed d => cases h
  | idle reason => rfl
  | registered units => rfl

theorem eq_registered {o : Outcome} (h : o.isRegistered = true) : o = .registered o.units := by
  cases o with
  | registered units => rfl
  | idle reason => cases h
  | failed diagnostic => cases h

/-- Only a result that is no fault is registered. -/
theorem eq_ok_of_registered {pipeline : Pipeline} {result : Except Fault (List GeneratedUnit)}
    {units : List GeneratedUnit} (h : (ofResult pipeline result).value = .registered units) :
    result = .ok units := by
  cases result with
  | error fault => cases h
  | ok registered =>
    cases h
    rfl

end Outcome

/-! ## The report -/

/-- How the outcomes of the model pipeline and of the controller pipeline decide the report. -/
inductive Report.Settles : Outcome → Outcome → Report → Prop where
  | bothFailed (d e : Diagnostic) : Settles (.failed d) (.failed e) ⟨.failed, [], [d, e]⟩
  | modelFailed (d : Diagnostic) {controllers : Outcome} (h : controllers.isFailed = false) :
      Settles (.failed d) controllers ⟨.failed, [], [d]⟩
  | controllersFailed {model : Outcome} (e : Diagnostic) (h : model.isFailed = false) :
      Settles model (.failed e) ⟨.failed, [], [e]⟩
  | bothIdle (reason reason' : IdleReason) :
      Settles (.idle reason) (.idle reason') ⟨.idle, [], []⟩
  /-- Two units of the run have one name. -/
  | clash {model controllers : Outcome} {name : String}
      (hmodel : model.isFailed = false) (hcontrollers : controllers.isFailed = false)
      (hname : FirstRepeat ((model.units ++ controllers.units).map GeneratedUnit.name) name) :
      Settles model controllers
        ⟨.failed, [], [⟨"SG0004", .error, "Duplicate generated unit name: " ++ name, none⟩]⟩
  | registered {model controllers : Outcome}
      (hmodel : model.isFailed = false) (hcontrollers : controllers.isFailed = false)
      (hsome : model.isRegistered = true ∨ controllers.isRegistered = true)
      (hnodup : ((model.units ++ controllers.units).map GeneratedUnit.name).Nodup) :
      Settles model controllers
        ⟨.registered (model.units ++ controllers.units).length, model.units ++ controllers.units,
          []⟩

namespace Report

variable {model controllers : Outcome}

theorem flatMap_units (model controllers : Outcome) :
    [model, controllers].flatMap Outcome.units = model.units ++ controllers.units := by
  rw [List.flatMap_cons, List.flatMap_singleton]

/-- Without a failure, and with a pipeline that registered units, the units decide. -/
theorem combine_of_registered (hmodel : model.isFailed = false)
    (hcontrollers : controllers.isFailed = false)
    (hsome : model.isRegistered = true ∨ controllers.isRegistered = true) :
    (((model.units ++ controllers.units).map GeneratedUnit.name).Nodup ∧
      combine model controllers = ⟨registered (model.units ++ controllers.units), []⟩) ∨
    ∃ name, FirstRepeat ((model.units ++ controllers.units).map GeneratedUnit.name) name ∧
      combine model controllers =
        ⟨failed [(Fault.duplicateUnit name).toDiagnostic], [.unitsClash]⟩ := by
  have hdiagnostics : [model, controllers].filterMap Outcome.diagnostic? = [] := by
    rw [List.filterMap_cons_none (Outcome.diagnostic?_eq_none hmodel),
      List.filterMap_cons_none (Outcome.diagnostic?_eq_none hcontrollers), List.filterMap_nil]
  have hany : [model, controllers].any Outcome.isRegistered = true := by
    simpa using hsome
  have hunits := flatMap_units model controllers
  rcases Staging.consistent_empty.addAll (model.units ++ controllers.units) with
    ⟨staging, hadd, hconsistent, hstaged⟩ | ⟨name, hname, hadd⟩
  · left
    rw [Staging.empty, List.nil_append] at hstaged
    refine ⟨hstaged ▸ hconsistent.nodup, ?_⟩
    rw [← hstaged] at hunits hadd ⊢
    simp only [combine, hdiagnostics, hany, hunits, hadd]
    rfl
  · right
    refine ⟨name, hname, ?_⟩
    simp only [combine, hdiagnostics, hany, hunits, hadd]
    rfl

theorem settles_combine_of_registered (hmodel : model.isFailed = false)
    (hcontrollers : controllers.isFailed = false)
    (hsome : model.isRegistered = true ∨ controllers.isRegistered = true) :
    Settles model controllers (combine model controllers).value := by
  rcases combine_of_registered hmodel hcontrollers hsome with
    ⟨hnodup, hcombine⟩ | ⟨name, hname, hcombine⟩
  · rw [hcombine]
    exact .registered hmodel hcontrollers hsome hnodup
  · rw [hcombine]
    exact .clash hmodel hcontrollers hname

theorem settles_combine (model controllers : Outcome) :
    Settles model controllers (combine model controllers).value := by
  cases model with
  | failed d =>
    cases controllers with
    | failed e => exact .bothFailed d e
    | idle reason => exact .modelFailed d rfl
    | registered units => exact .modelFailed d rfl
  | idle reason =>
    cases controllers with
    | failed e => exact .controllersFailed e rfl
    | idle reason' => exact .bothIdle reason reason'
    | registered units => exact settles_combine_of_registered rfl rfl (.inr rfl)
  | registered units =>
    cases controllers with
    | failed e => exact .controllersFailed e rfl
    | idle reason => exact settles_combine_of_registered rfl rfl (.inl rfl)
    | registered more => exact settles_combine_of_registered rfl rfl (.inl rfl)

/-- The outcomes leave no choice. -/
theorem Settles.unique {r r' : Report} (h : Settles model controllers r)
    (h' : Settles model controllers r') : r = r' := by
  cases h with
  | bothFailed d e =>
    cases h' with
    | bothFailed => rfl
    | modelFailed _ h => cases h
    | controllersFailed _ h => cases h
    | clash h => cases h
    | registered h => cases h
  | modelFailed d hcontrollers =>
    cases h' with
    | bothFailed => cases hcontrollers
    | modelFailed => rfl
    | controllersFailed _ h => cases h
    | clash h => cases h
    | registered h => cases h
  | controllersFailed e hmodel =>
    cases h' with
    | bothFailed => cases hmodel
    | modelFailed _ h => cases h
    | controllersFailed => rfl
    | clash _ h => cases h
    | registered _ h => cases h
  | bothIdle =>
    cases h' with
    | bothIdle => rfl
    | clash _ _ hname => exact absurd List.nodup_nil hname.not_nodup
    | registered _ _ hsome => rcases hsome with h | h <;> cases h
  | clash hmodel hcontrollers hname =>
    cases h' with
    | bothFailed => cases hmodel
    | modelFailed => cases hmodel
    | controllersFailed => cases hcontrollers
    | bothIdle => exact absurd List.nodup_nil hname.not_nodup
    | clash _ _ hname' => rw [hname.unique hname']
    | registered _ _ _ hnodup => exact absurd hnodup hname.not_nodup
  | registered hmodel hcontrollers hsome hnodup =>
    cases h' with
    | bothFailed => cases hmodel
    | modelFailed => cases hmodel
    | controllersFailed => cases hcontrollers
    | bothIdle => rcases hsome with h | h <;> cases h
    | clash _ _ hname => exact absurd hnodup hname.not_nodup
    | registered => rfl

/-- Whatever holds of what fails a pipeline, and of a clash of names, holds of all that is
reported. -/
theorem Settles.forall_diagnostics {report : Report} {P : Diagnostic → Prop}
    (h : Settles model controllers report) (hmodel : ∀ d, model = .failed d → P d)
    (hcontrollers : ∀ d, controllers = .failed d → P d)
    (hclash : ∀ name, FirstRepeat ((model.units ++ controllers.units).map GeneratedUnit.name) name →
      P ⟨"SG0004", .error, "Duplicate generated unit name: " ++ name, none⟩) :
    ∀ d ∈ report.diagnostics, P d := by
  cases h with
  | bothFailed d e =>
    exact List.forall_mem_cons.mpr
      ⟨hmodel d rfl, List.forall_mem_singleton.mpr (hcontrollers e rfl)⟩
  | modelFailed d => exact List.forall_mem_singleton.mpr (hmodel d rfl)
  | controllersFailed e => exact List.forall_mem_singleton.mpr (hcontrollers e rfl)
  | bothIdle => exact List.forall_mem_nil _
  | @clash _ _ name _ _ hname => exact List.forall_mem_singleton.mpr (hclash name hname)
  | registered => exact List.forall_mem_nil _

end Report

namespace Request

variable {request : Request}

theorem value_resolveConfig (request : Request) :
    request.resolveConfig.value = match (Config.resolve request.texts).value with
      | .ok config => .ok config
      | .error fault => .error fault.toDiagnostic := by
  rw [resolveConfig, Noted.value_bind]
  cases (Config.resolve request.texts).value <;> rfl

theorem resolveConfig_eq_ok {config : Option Config} :
    request.resolveConfig.value = .ok config ↔
      (Config.resolve request.texts).value = .ok config := by
  rw [value_resolveConfig]
  cases (Config.resolve request.texts).value <;> simp

/-- A pipeline and the run, where the configuration cannot be read. -/
theorem runs_of_error {d : Diagnostic} (h : request.resolveConfig.value = .error d)
    (renderer : Renderer) (wording : Wording) :
    (request.runModel renderer).value = .failed d ∧
      (request.runControllers renderer wording).value = .failed d ∧
      (request.run renderer wording).value = .failed [d] := by
  refine ⟨?_, ?_, ?_⟩
  · rw [runModel, runPipeline, Noted.value_bind, h]
    rfl
  · rw [runControllers, runPipeline, Noted.value_bind, h]
    rfl
  · rw [run, Noted.value_bind, h]
    rfl

theorem run_settles_of_ok {config : Option Config} (h : request.resolveConfig.value = .ok config)
    (renderer : Renderer) (wording : Wording) :
    Report.Settles (request.runModel renderer).value (request.runControllers renderer wording).value
      (request.run renderer wording).value := by
  rw [runModel, runControllers, runPipeline, runPipeline, run, Noted.value_bind, Noted.value_bind,
    Noted.value_bind, h]
  cases config with
  | none => exact .bothIdle .configMissing .configMissing
  | some config => exact Report.settles_combine _ _

/-- A run is settled by its configuration, or by the outcomes of its pipelines under it. -/
theorem report_of_run (renderer : Renderer) (request : Request) (wording : Wording) :
    (∃ d, request.resolveConfig.value = .error d ∧
      (request.run renderer wording).value = .failed [d]) ∨
    (request.run renderer wording).value = .idle ∨
    ∃ config, Report.Settles (Pipeline.runModel renderer config request).value
      (Pipeline.runControllers renderer config request wording).value
      (request.run renderer wording).value := by
  cases hresolve : request.resolveConfig.value with
  | error d => exact .inl ⟨d, rfl, (runs_of_error hresolve renderer wording).2.2⟩
  | ok found =>
    rw [run, Noted.value_bind, hresolve]
    cases found with
    | none => exact .inr (.inl rfl)
    | some config => exact .inr (.inr ⟨config, Report.settles_combine _ _⟩)

/-- What fails a pipeline is its configuration, or comes up under it. -/
theorem failed_of_runPipeline {pipeline : Config → Request → Noted Outcome} {d : Diagnostic}
    (h : (request.runPipeline pipeline).value = .failed d) :
    request.resolveConfig.value = .error d ∨
      ∃ config, (pipeline config request).value = .failed d := by
  rw [runPipeline, Noted.value_bind] at h
  cases hresolve : request.resolveConfig.value with
  | error e =>
    rw [hresolve] at h
    cases h
    exact .inl rfl
  | ok found =>
    rw [hresolve] at h
    cases found with
    | none => cases h
    | some config => exact .inr ⟨config, h⟩

end Request

/-- Either there is a configuration that cannot be read, and both pipelines and the run fail with
the diagnostic that says so.  Or the report of the run is the one that the outcomes of the pipelines
settle. -/
theorem run_settles (renderer : Renderer) (request : Request) (wording : Wording) :
    (∃ path e, Config.Malformed request.texts path e ∧
      let d : Diagnostic :=
        ⟨"SG0001", .error, "Malformed analyzer config: " ++ e.message, some path⟩
      (request.runModel renderer).value = .failed d ∧
      (request.runControllers renderer wording).value = .failed d ∧
      (request.run renderer wording).value = ⟨.failed, [], [d]⟩) ∨
    (∀ path e, ¬ Config.Malformed request.texts path e) ∧
      ∀ report, Report.Settles (request.runModel renderer).value
        (request.runControllers renderer wording).value report ↔
          report = (request.run renderer wording).value := by
  have hresolve := Request.value_resolveConfig request
  rcases Config.resolve_cases request.texts with ⟨path, e, hmalformed, hvalue⟩ |
    ⟨hreadable, config, hvalue⟩
  · left
    rw [hvalue] at hresolve
    exact ⟨path, e, hmalformed, Request.runs_of_error hresolve renderer wording⟩
  · right
    rw [hvalue] at hresolve
    have hsettles := Request.run_settles_of_ok hresolve renderer wording
    refine ⟨hreadable, fun report => ⟨fun h => h.unique hsettles, ?_⟩⟩
    rintro rfl
    exact hsettles

end ServiceStubs
