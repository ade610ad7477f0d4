import ServiceStubs.Proofs.Run.Commit

/-!
# What a run depends on

Of all its texts a run reads two: the first that is a configuration by its path, and the first whose
path ends as that configuration says the schema does.  The name of the module and the declarations
count only if the configuration names a services namespace.  Requests that agree on what is read
have equal results, whatever else they hold and in whatever order.
-/

namespace ServiceStubs

namespace Request

/-- The first configuration among the texts can be read, and says this. -/
def IsConfigured (request : Request) (config : Config) : Prop :=
  ∃ found, AuxiliaryText.find? request.texts Config.fileName = some found ∧
    Config.read found.path found.text = .ok config

/-- Two requests agree on all that a run reads. -/
structure Agrees (r r' : Request) : Prop where
  config : AuxiliaryText.find? r.texts Config.fileName =
    AuxiliaryText.find? r'.texts Config.fileName
  schema : ∀ config fileName, r.IsConfigured config → config.schemaFileName = some fileName →
    AuxiliaryText.find? r.texts fileName = AuxiliaryText.find? r'.texts fileName
  program : ∀ config, r.IsConfigured config → config.servicesNamespace ≠ none →
    r.moduleName = r'.moduleName ∧ r.declarations = r'.declarations

variable {r r' request : Request} {config : Config}

theorem isConfigured_of_resolveConfig (h : request.resolveConfig.value = .ok (some config)) :
    request.IsConfigured config := by
  rcases Config.value_resolve_eq_ok.mp (resolveConfig_eq_ok.mp h) with
    ⟨-, hnone⟩ | ⟨found, c, hfind, hread, hsome⟩
  · cases hnone
  · obtain rfl := Option.some.inj hsome
    exact ⟨found, hfind, hread⟩

theorem IsConfigured.unique {config' : Config} (h : request.IsConfigured config)
    (h' : request.IsConfigured config') : config = config' := by
  obtain ⟨found, hfind, hread⟩ := h
  obtain ⟨found', hfind', hread'⟩ := h'
  obtain rfl := Option.some.inj (hfind.symm.trans hfind')
  exact Except.ok.inj (hread.symm.trans hread')

/-- The configuration comes from one text. -/
theorem resolveConfig_congr (h : AuxiliaryText.find? r.texts Config.fileName =
    AuxiliaryText.find? r'.texts Config.fileName) :
    r.resolveConfig.value = r'.resolveConfig.value := by
  rw [value_resolveConfig, value_resolveConfig, Config.value_resolve, Config.value_resolve, h]

end Request

namespace Pipeline

variable {r r' : Request} {config : Config} (renderer : Renderer) {wording : Wording}

/-- Without a services namespace the model pipeline looks at nothing. -/
theorem runModel_congr (h : config.servicesNamespace ≠ none →
    r.moduleName = r'.moduleName ∧ r.declarations = r'.declarations) :
    runModel renderer config r = runModel renderer config r' := by
  rw [runModel, runModel]
  cases hservices : config.servicesNamespace with
  | none => rfl
  | some services =>
    obtain ⟨hname, hdeclarations⟩ := h (by rw [hservices]; exact Option.some_ne_none services)
    rw [hname, hdeclarations]

/-- The controller pipeline looks at nothing but the schema. -/
theorem runControllers_congr (h : ∀ fileName, config.schemaFileName = some fileName →
    AuxiliaryText.find? r.texts fileName = AuxiliaryText.find? r'.texts fileName) :
    runControllers renderer config r wording = runControllers renderer config r' wording := by
  rw [runControllers, runControllers]
  cases hname : config.schemaFileName with
  | none => rfl
  | some fileName =>
    have hload : Schema.load r.texts fileName wording = Schema.load r'.texts fileName wording := by
      rw [Schema.load, Schema.load, h fileName hname]
    simp only [hload]

end Pipeline

namespace Request

variable {r r' : Request}

theorem runPipeline_congr {pipeline : Config → Request → Noted Outcome} (h : r.Agrees r')
    (hpipeline : ∀ config, r.IsConfigured config → pipeline config r = pipeline config r') :
    (r.runPipeline pipeline).value = (r'.runPipeline pipeline).value := by
  rw [runPipeline, runPipeline, Noted.value_bind, Noted.value_bind, ← resolveConfig_congr h.config]
  cases hresolve : r.resolveConfig.value with
  | error diagnostic => rfl
  | ok found =>
    cases found with
    | none => rfl
    | some config => exact congrArg _ (hpipeline config (isConfigured_of_resolveConfig hresolve))

/-- What each pipeline makes of a configuration is the same for both requests. -/
theorem Agrees.pipelines (h : r.Agrees r') (renderer : Renderer) (wording : Wording)
    {config : Config} (hconfig : r.IsConfigured config) :
    Pipeline.runModel renderer config r = Pipeline.runModel renderer config r' ∧
      Pipeline.runControllers renderer config r wording =
        Pipeline.runControllers renderer config r' wording := by
  constructor
  · exact Pipeline.runModel_congr renderer (h.program config hconfig)
  · exact Pipeline.runControllers_congr renderer fun fileName => h.schema config fileName hconfig

theorem Agrees.run (h : r.Agrees r') (renderer : Renderer) (wording : Wording) :
    (r.run renderer wording).value = (r'.run renderer wording).value := by
  rw [Request.run, Request.run, Noted.value_bind, Noted.value_bind, ← resolveConfig_congr h.config]
  cases hresolve : r.resolveConfig.value with
  | error diagnostic => rfl
  | ok found =>
    cases found with
    | none => rfl
    | some config =>
      obtain ⟨hmodel, hcontrollers⟩ :=
        h.pipelines renderer wording (isConfigured_of_resolveConfig hresolve)
      dsimp only
      rw [hmodel, hcontrollers]

end Request

/-- Let two requests agree on the first configuration among their texts; on the first text that it
finds for a schema, if it names one; and on the name of the module and the declarations, if it names
a services namespace.  Then the run and each pipeline give equal results for both. -/
theorem run_congr (renderer : Renderer) (wording : Wording) {r r' : Request} (h : r.Agrees r') :
    (r.run renderer wording).value = (r'.run renderer wording).value ∧
      (r.runModel renderer).value = (r'.runModel renderer).value ∧
      (r.runControllers renderer wording).value = (r'.runControllers renderer wording).value := by
  refine ⟨h.run renderer wording, ?_, ?_⟩
  · exact Request.runPipeline_congr h fun _ hconfig => (h.pipelines renderer wording hconfig).1
  · exact Request.runPipeline_congr h fun _ hconfig => (h.pipelines renderer wording hconfig).2

/-- Other texts before, between and behind, a later configuration that is malformed, and another
program, which a blank services namespace leaves out of account. -/
theorem run_congr_blank :
    let config : AuxiliaryText :=
      ⟨"app/analyzer.config.json",
        "\x7b\"JsonSchema\":\"api.json\",\"ControllerServicesNamespace\":\" \"\x7d"⟩
    let schema : AuxiliaryText := ⟨"app/api.json", "[\x7b\"Name\":\"Billing\"\x7d]"⟩
    let program : Snapshot := ⟨[⟨"a.rs", [⟨"Ledger", " ", .everywhere, []⟩]⟩]⟩
    let r : Request := ⟨"app", program, [config, ⟨"a/analyzer.config.json", "]"⟩, schema]⟩
    let r' : Request := ⟨"tool", ⟨[]⟩, [⟨"notes", "["⟩, schema, ⟨"b/api.json", ""⟩, config]⟩
    (r.run .builtIn).value.units.map GeneratedUnit.name = ["BillingController.generated.rs"] ∧
      r.Agrees r' ∧ (r.run .builtIn).value = (r'.run .builtIn).value ∧
      (r.runModel .builtIn).value = (r'.runModel .builtIn).value ∧
      (r.runControllers .builtIn).value = (r'.runControllers .builtIn).value := by
  intro config schema program r r'
  have hread : r.IsConfigured ⟨some "api.json", some " ", none⟩ :=
    ⟨config, by decide +kernel, by decide +kernel⟩
  have hagrees : r.Agrees r' := by
    refine ⟨by decide +kernel, ?_, ?_⟩
    · rintro found fileName hfound hname
      obtain rfl := hfound.unique hread
      obtain rfl : "api.json" = fileName := Option.some.inj hname
      decide +kernel
    · rintro found hfound hservices
      obtain rfl := hfound.unique hread
      exact absurd (by decide) hservices
  exact ⟨by decide +kernel, hagrees, run_congr .builtIn .plain hagrees⟩

end ServiceStubs
