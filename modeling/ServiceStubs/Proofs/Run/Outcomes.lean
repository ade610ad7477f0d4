import ServiceStubs.Proofs.Run.Commit
import ServiceStubs.Proofs.Run.Refusal
import ServiceStubs.Proofs.Run.SharedNames

/-!
# What pipelines end with

The model pipeline fails for two services of one name, and otherwise registers the unit of its
module.  The controller pipeline fails for its schema or for a service that is refused, and
otherwise registers units of services with plain names.  A run that registered units has different
names for them; any other run has no units.
-/

namespace ServiceStubs

theorem Outcome.exists_of_mem_units {pipeline : Pipeline}
    {result : Except Fault (List GeneratedUnit)} {unit : GeneratedUnit}
    (h : unit ∈ (ofResult pipeline result).value.units) :
    ∃ units, result = .ok units ∧ unit ∈ units := by
  cases result with
  | error fault => cases h
  | ok units => exact ⟨units, rfl, h⟩

namespace Pipeline

variable {config : Config} {request : Request} {wording : Wording} {unit : GeneratedUnit}

theorem IsController.isFit {s : Service} (h : IsController .builtIn s unit) : s.IsFit := by
  rcases s.checkIdentifiers_cases with ⟨hfit, -⟩ | ⟨fault, hcheck, -⟩
  · exact hfit
  · have hrefused := h.text
    rw [controller_eq_error hcheck] at hrefused
    cases hrefused

theorem isController_of_runControllers
    (hunit : unit ∈ (runControllers .builtIn config request wording).value.units) :
    ∃ s, IsController .builtIn s unit := by
  unfold runControllers at hunit
  split at hunit
  · cases hunit
  · split at hunit
    · cases hunit
    · obtain ⟨units, hunits, hmem⟩ := Outcome.exists_of_mem_units hunit
      have hcontrollers := (isController_of_controllerUnits hunits).1
      obtain ⟨s, -, hs⟩ := exists_mem_of_forall₂ hcontrollers.flip hmem
      exact ⟨s, hs⟩
    · cases hunit

/-- The controller pipeline fails for its schema, or for a service that is refused. -/
theorem failed_of_runControllers {d : Diagnostic}
    (h : (runControllers .builtIn config request wording).value = .failed d) :
    ∃ fault : Fault, d = fault.toDiagnostic ∧
      ((∃ fileName, Schema.load request.texts fileName wording = .error fault) ∨
        ∃ services i s, FirstRefused services i s fault.toDiagnostic) := by
  unfold runControllers at h
  split at h
  · cases h
  · split at h
    · cases h
    · next services _ =>
      rcases controllerUnits_cases services with ⟨i, s, fault, hrefused, hunits⟩ |
        ⟨-, units, hunits, -⟩
      · rw [hunits] at h
        cases h
        exact ⟨fault, rfl, .inr ⟨services, i, s, hrefused⟩⟩
      · rw [hunits] at h
        cases h
    · next fault hload =>
      cases h
      exact ⟨fault, rfl, .inl ⟨_, hload⟩⟩

/-- The model pipeline has nothing to do, fails for two services of one name, or registers the unit
of its module. -/
theorem runModel_cases (config : Config) (request : Request) :
    let outcome := (runModel .builtIn config request).value
    outcome = .idle .namespaceUnset ∨
      (∃ name services, outcome = .failed (Fault.duplicateService name services).toDiagnostic) ∨
      ∃ text, outcome = .registered [⟨Naming.modelUnitName request.moduleName, text⟩] := by
  intro outcome
  cases hservices : config.servicesNamespace with
  | none =>
    left
    simp only [outcome, runModel, hservices]
    rfl
  | some services =>
    right
    have houtcome : outcome = _ := value_runModel hservices .builtIn request
    rcases Extraction.checkUnique_extract services config.targetNamespace request.declarations with
      ⟨j, c, -, hshared⟩ | ⟨-, hunique⟩
    · rw [modelUnits_of_shared hshared] at houtcome
      exact .inl ⟨c.name, services, houtcome⟩
    · rw [modelUnits_of_unique hunique] at houtcome
      exact .inr ⟨_, houtcome⟩

theorem nodup_of_runModel (config : Config) (request : Request) :
    ((runModel .builtIn config request).value.units.map GeneratedUnit.name).Nodup := by
  rcases runModel_cases config request with hidle | ⟨name, services, hfailed⟩ | ⟨text, hunits⟩
  · rw [hidle]
    exact List.nodup_nil
  · rw [hfailed]
    exact List.nodup_nil
  · rw [hunits]
    exact List.nodup_singleton _

theorem name_of_runModel (hunit : unit ∈ (runModel .builtIn config request).value.units) :
    unit.name = Naming.modelUnitName request.moduleName := by
  rcases runModel_cases config request with hidle | ⟨name, services, hfailed⟩ | ⟨text, hunits⟩
  · rw [hidle] at hunit
    cases hunit
  · rw [hfailed] at hunit
    cases hunit
  · rw [hunits] at hunit
    rw [List.mem_singleton.mp hunit]

end Pipeline

/-- The unit is that of the module, or that of a service with plain names. -/
def GeneratedUnit.IsNamedFor (unit : GeneratedUnit) (moduleName : String) : Prop :=
  unit.name = Naming.modelUnitName moduleName ∨ ∃ s : Service, s.IsFit ∧ unit.name = s.unitName

namespace Report

/-- The units of a report that registered so many have different names; any other has none. -/
inductive HasUnits (moduleName : String) : Report → Prop where
  | none {report : Report} (hunits : report.units = [])
      (hstate : ∀ n, report.state ≠ .registered n) : HasUnits moduleName report
  | some {report : Report} (hstate : report.state = .registered report.units.length)
      (hnodup : (report.units.map GeneratedUnit.name).Nodup)
      (hnames : ∀ unit ∈ report.units, unit.IsNamedFor moduleName) : HasUnits moduleName report

namespace HasUnits

variable {moduleName : String} {report : Report}

theorem nodup (h : HasUnits moduleName report) : (report.units.map GeneratedUnit.name).Nodup := by
  cases h with
  | none hunits =>
    rw [hunits]
    exact List.nodup_nil
  | some _ hnodup => exact hnodup

theorem isNamedFor (h : HasUnits moduleName report) :
    ∀ unit ∈ report.units, unit.IsNamedFor moduleName := by
  cases h with
  | none hunits =>
    rw [hunits]
    exact List.forall_mem_nil _
  | some _ _ hnames => exact hnames

end HasUnits

theorem Settles.hasUnits {model controllers : Outcome} {report : Report} {moduleName : String}
    (h : Settles model controllers report)
    (hmodel : ∀ unit ∈ model.units, unit.IsNamedFor moduleName)
    (hcontrollers : ∀ unit ∈ controllers.units, unit.IsNamedFor moduleName) :
    HasUnits moduleName report := by
  cases h with
  | bothFailed => exact .none rfl nofun
  | modelFailed => exact .none rfl nofun
  | controllersFailed => exact .none rfl nofun
  | bothIdle => exact .none rfl nofun
  | clash => exact .none rfl nofun
  | registered _ _ _ hnodup =>
    exact .some rfl hnodup fun unit hunit => (List.mem_append.mp hunit).elim (hmodel unit)
      (hcontrollers unit)

end Report

theorem Request.hasUnits_of_run (request : Request) (wording : Wording) :
    (request.run .builtIn wording).value.HasUnits request.moduleName := by
  rcases report_of_run .builtIn request wording with ⟨d, -, hrun⟩ | hrun | ⟨config, hsettles⟩
  · rw [hrun]
    exact .none rfl nofun
  · rw [hrun]
    exact .none rfl nofun
  · refine hsettles.hasUnits (fun unit hunit => .inl (Pipeline.name_of_runModel hunit)) ?_
    intro unit hunit
    obtain ⟨s, hs⟩ := Pipeline.isController_of_runControllers hunit
    exact .inr ⟨s, hs.isFit, hs.name⟩

end ServiceStubs
