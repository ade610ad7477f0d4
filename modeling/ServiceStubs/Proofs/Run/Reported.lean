import ServiceStubs.Proofs.Run.Outcomes
import ServiceStubs.Proofs.Template.BuiltIn

/-!
# What a run can report

With the built-in templates there are five things that a run can report: a configuration or a schema
that is malformed, two services or two units of one name, and a name that is no identifier.  The
templates themselves have no part in it.  They are read before any value is known, every value that
they name is there, and what a value says is put into the text as it stands.
-/

namespace ServiceStubs

/-- The ids of what a run can report. -/
def reportedIds : List String := ["SG0001", "SG0002", "SG0003", "SG0004", "SG0005"]

/-- The diagnostic is on a fault that a run can report. -/
def Diagnostic.IsReported (d : Diagnostic) : Prop :=
  ∃ fault : Fault, d = fault.toDiagnostic ∧ fault.id ∈ reportedIds

/-! ## Templates -/

/-- The only fault that names can be at is to be no identifiers. -/
theorem Service.exists_of_checkIdentifiers {s : Service} {fault : Fault}
    (h : s.checkIdentifiers = .error fault) :
    ∃ name role, fault = .invalidIdentifier name role := by
  rw [checkIdentifiers] at h
  split at h
  · exact ⟨_, _, (Except.error.inj h).symm⟩
  · split at h
    · exact ⟨_, _, (Except.error.inj h).symm⟩
    · cases h

namespace ControllerView

variable {s : Service} {view : ControllerView} {fault : Fault}

theorem ofService_eq_ok (h : ofService s = .ok view) :
    s.checkIdentifiers = .ok () ∧ view = ofFit s := by
  obtain ⟨_, hcheck, -⟩ := eq_ok_of_bind h
  exact ⟨hcheck, Except.ok.inj (h.symm.trans (ofService_eq hcheck))⟩

/-- The template of a controller fails for no view. -/
theorem controller_eq_error_iff :
    Renderer.builtIn.controller s = .error fault ↔ s.checkIdentifiers = .error fault := by
  constructor
  · intro h
    cases hcheck : s.checkIdentifiers with
    | error fault' =>
      obtain rfl := Except.error.inj ((Pipeline.controller_eq_error hcheck).symm.trans h)
      rfl
    | ok _ =>
      obtain ⟨text, htext, -⟩ := controller_eq hcheck
      rw [htext] at h
      cases h
  · exact Pipeline.controller_eq_error

/-- The line that names the target stands in front of the line that ends the header. -/
theorem target_infix_chars (view : ControllerView) :
    view.targetChars ++ "\n// </auto-generated>\n\n/// Routed entry points for the \x60".toList <:+:
      view.chars := by
  have hinfix : ∀ a b c d e f : List Char, d ++ e <:+: a ++ (b ++ (c ++ (d ++ (e ++ f)))) :=
    fun a b c d e f => ⟨a ++ (b ++ c), f, by simp only [List.append_assoc]⟩
  unfold chars
  exact hinfix _ _ _ _ _ _

end ControllerView

/-! ## Faults of the inputs -/

theorem Schema.exists_of_load {texts : List AuxiliaryText} {fileName : String} {fault : Fault}
    {wording : Wording} (h : load texts fileName wording = .error fault) :
    ∃ path reason, fault = .schemaMalformed path reason := by
  unfold load at h
  split at h
  · cases h
  · next found _ =>
    obtain ⟨reason, hreason⟩ := exists_of_parse (map_eq_error.mp h)
    exact ⟨_, reason, hreason⟩

theorem Service.Refused.id_mem {earlier : List Service} {s : Service} {d : Diagnostic}
    (h : s.Refused earlier d) : d.id ∈ reportedIds := by
  cases h <;> simp [reportedIds]

/-! ## Pipelines -/

namespace Pipeline

variable {config : Config} {request : Request} {wording : Wording} {d : Diagnostic}

theorem isReported_of_runModel (h : (runModel .builtIn config request).value = .failed d) :
    d.IsReported := by
  rcases runModel_cases config request with hidle | ⟨name, services, hfailed⟩ | ⟨text, hunits⟩
  · rw [hidle] at h
    cases h
  · obtain rfl := Outcome.failed.inj (hfailed.symm.trans h)
    exact ⟨_, rfl, by simp [Fault.id, reportedIds]⟩
  · rw [hunits] at h
    cases h

theorem isReported_of_runControllers
    (h : (runControllers .builtIn config request wording).value = .failed d) : d.IsReported := by
  obtain ⟨fault, rfl, ⟨fileName, hload⟩ | ⟨services, i, s, hrefused⟩⟩ := failed_of_runControllers h
  · obtain ⟨path, reason, rfl⟩ := Schema.exists_of_load hload
    exact ⟨_, rfl, by simp [Fault.id, reportedIds]⟩
  · exact ⟨fault, rfl, hrefused.refused.id_mem⟩

end Pipeline

/-! ## Runs -/

namespace Request

variable {request : Request} {d : Diagnostic}

theorem isReported_of_resolveConfig (h : request.resolveConfig.value = .error d) :
    d.IsReported := by
  rw [value_resolveConfig] at h
  rcases Config.resolve_cases request.texts with ⟨path, e, -, hvalue⟩ | ⟨-, config, hvalue⟩
  · rw [hvalue] at h
    obtain rfl := Except.error.inj h
    exact ⟨_, rfl, by simp [Fault.id, reportedIds]⟩
  · rw [hvalue] at h
    cases h

theorem isReported_of_runPipeline {pipeline : Config → Request → Noted Outcome}
    (hpipeline : ∀ config, (pipeline config request).value = .failed d → d.IsReported)
    (h : (request.runPipeline pipeline).value = .failed d) : d.IsReported := by
  rcases failed_of_runPipeline h with hconfig | ⟨config, hfailed⟩
  · exact isReported_of_resolveConfig hconfig
  · exact hpipeline config hfailed

theorem isReported_of_run (wording : Wording) :
    ∀ d ∈ (request.run .builtIn wording).value.diagnostics, d.IsReported := by
  rcases report_of_run .builtIn request wording with ⟨d, hconfig, hrun⟩ | hrun | ⟨config, hsettles⟩
  · rw [hrun]
    exact List.forall_mem_singleton.mpr (isReported_of_resolveConfig hconfig)
  · rw [hrun]
    exact List.forall_mem_nil _
  · refine hsettles.forall_diagnostics (fun d => Pipeline.isReported_of_runModel)
      (fun d => Pipeline.isReported_of_runControllers) fun name _ => ?_
    exact ⟨.duplicateUnit name, rfl, by simp [Fault.id, reportedIds]⟩

end Request

/-- The built-in templates are read from their texts.  The aggregate unit is always rendered, and a
controller unless a name of its service is no identifier; each of the two texts is a fixed frame, in
which the values stand as they are.  So all that a run or one of its pipelines reports is on a fault
of the five that do not come from templates, sources or disks. -/
theorem builtIn_never_fails :
    Renderer.ofTexts ControllerView.templateText ModelView.templateText = .ok .builtIn ∧
    (∀ moduleName model, Renderer.builtIn.serviceModel moduleName model =
      .ok (ModelView.text moduleName model)) ∧
    (∀ s fault, Renderer.builtIn.controller s = .error fault ↔ s.checkIdentifiers = .error fault) ∧
    (∀ (s : Service) fault, s.checkIdentifiers = .error fault →
      ∃ name role, fault = .invalidIdentifier name role) ∧
    (∀ s view, ControllerView.ofService s = .ok view →
      ∃ text, Renderer.builtIn.controller s = .ok text ∧ text.toList = view.chars) ∧
    ∀ (request : Request) wording d, d ∈ (request.run .builtIn wording).value.diagnostics ∨
      (request.runModel .builtIn).value = .failed d ∨
      (request.runControllers .builtIn wording).value = .failed d → d.IsReported := by
  refine ⟨Renderer.ofTexts_builtIn, ModelView.serviceModel_eq,
    fun s fault => ControllerView.controller_eq_error_iff,
    fun s fault => Service.exists_of_checkIdentifiers, ?_, ?_⟩
  · intro s view hview
    obtain ⟨hcheck, rfl⟩ := ControllerView.ofService_eq_ok hview
    exact ControllerView.controller_eq hcheck
  · rintro request wording d (hrun | hmodel | hcontrollers)
    · exact Request.isReported_of_run wording d hrun
    · exact Request.isReported_of_runPipeline (fun _ => Pipeline.isReported_of_runModel) hmodel
    · exact Request.isReported_of_runPipeline (fun _ => Pipeline.isReported_of_runControllers)
        hcontrollers

/-- A target that looks like a tag is put where it belongs, and neither its tag nor its trim marks
are obeyed.  A name that looks like a tag is refused by the check on names. -/
theorem builtIn_never_fails_braces :
    let s : Service :=
      ⟨"Billing", "", "\x7b%- if op -%\x7d", [⟨"Charge", "", "\x7b\x7b op \x7d\x7d"⟩]⟩
    let texts : List AuxiliaryText :=
      [⟨"analyzer.config.json", "\x7b\"JsonSchema\":\"s.json\"\x7d"⟩,
        ⟨"s.json", "[\x7b\"Name\":\"\x7b# a #\x7d\"\x7d]"⟩]
    (∃ text, Renderer.builtIn.controller s = .ok text ∧
      "\n// Target: \x7b%- if op -%\x7d".toList ++
        "\n// </auto-generated>\n\n/// Routed entry points for the \x60".toList <:+: text.toList) ∧
    Renderer.builtIn.controller ⟨"\x7b# a #\x7d", "", "", []⟩ =
      .error (.invalidIdentifier "\x7b# a #\x7d" .service) ∧
    ∃ d ∈ (Request.run .builtIn ⟨"app", ⟨[]⟩, texts⟩).value.diagnostics, d.IsReported := by
  intro s texts
  have hrefused := builtIn_never_fails.2.2.1
  have hspliced := builtIn_never_fails.2.2.2.2.1
  have hreported := builtIn_never_fails.2.2.2.2.2
  refine ⟨?_, (hrefused _ _).mpr (by decide), ?_⟩
  · obtain ⟨text, htext, hchars⟩ := hspliced s _ (ControllerView.ofService_eq (by decide))
    have htarget : (ControllerView.ofFit s).targetChars =
        "\n// Target: \x7b%- if op -%\x7d".toList := by
      decide +kernel
    refine ⟨text, htext, ?_⟩
    rw [hchars, ← htarget]
    exact (ControllerView.ofFit s).target_infix_chars
  · have hrun : (⟨"SG0005", .error, "'\x7b# a #\x7d' is not a valid service identifier", none⟩ :
        Diagnostic) ∈ (Request.run .builtIn ⟨"app", ⟨[]⟩, texts⟩).value.diagnostics := by
      decide +kernel
    exact ⟨_, hrun, hreported _ .plain _ (.inl hrun)⟩

end ServiceStubs
