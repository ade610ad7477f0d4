import Mathlib.Data.List.Forall2
import ServiceStubs.Proofs.Extraction
import ServiceStubs.Proofs.Schema
import ServiceStubs.Proofs.Service.ControllerText
import ServiceStubs.Proofs.Staging
import ServiceStubs.Run.Basic

/-!
# The controllers of a model

The model that one run writes can be the schema of another.  The services of one namespace that the
model pipeline tells apart have different units, and names that are fit for generated code show
something; so the controller pipeline accepts them all, and registers the controller of each.
-/

namespace ServiceStubs

namespace Service

/-! ## Services that are told apart -/

theorem nodup_of_checkUniqueFrom {seen : List (String × String)} {services : List Service}
    (h : checkUniqueFrom seen services = .ok ()) :
    (services.map fun s => (s.sourceNamespace, s.name)).Nodup ∧
      ∀ s ∈ services, (s.sourceNamespace, s.name) ∉ seen := by
  induction services generalizing seen with
  | nil => exact ⟨List.nodup_nil, List.forall_mem_nil _⟩
  | cons s services ih =>
    rw [checkUniqueFrom] at h
    split_ifs at h with hseen
    obtain ⟨hnodup, hnew⟩ := ih h
    rw [List.map_cons, List.nodup_cons, List.forall_mem_cons]
    refine ⟨⟨?_, hnodup⟩, fun hmem => hseen (List.contains_iff_mem.mpr hmem), ?_⟩
    · intro hmem
      obtain ⟨t, ht, hkey⟩ := List.mem_map.mp hmem
      exact hnew t ht (hkey ▸ List.mem_cons_self)
    · intro t ht hmem
      exact hnew t ht (List.mem_cons_of_mem _ hmem)

theorem unitName_injective {s t : Service} (h : s.unitName = t.unitName) : s.name = t.name := by
  have hlist := congrArg String.toList h
  simp only [unitName, String.toList_append] at hlist
  exact String.toList_inj.mp (List.append_cancel_right (List.append_cancel_right hlist))

/-- Services of one namespace differ in their units as soon as they can be told apart. -/
theorem nodup_unitName {namespaceName : String} {services : List Service}
    (hunique : checkUnique services = .ok ())
    (hnamespace : ∀ s ∈ services, s.sourceNamespace = namespaceName) :
    (services.map unitName).Nodup := by
  have hkeys := (nodup_of_checkUniqueFrom hunique).1
  rw [List.Nodup, List.pairwise_map] at hkeys ⊢
  refine hkeys.imp_of_mem ?_
  intro s t hs ht hne hunit
  apply hne
  rw [hnamespace s hs, hnamespace t ht, unitName_injective hunit]

/-! ## Names that are fit for generated code -/

theorem isBlank_of_isIdentifierPart {c : Char} (h : Naming.isIdentifierPart c = true) :
    Text.isBlank c = false :=
  Rust.forall_isIdentifierPart (p := fun c => Text.isBlank c = false) (by decide) h

theorem isVisible_of_isIdentifier {name : String} (h : Naming.isIdentifier name = true) :
    Text.IsVisible name := by
  have hword := Naming.isWord_of_isIdentifier h
  have hplain := Naming.isPlain_of_isWord hword
  cases hlist : name.toList with
  | nil =>
    rw [hlist] at hword
    cases hword
  | cons c rest =>
    have hc : c ∈ name.toList := hlist ▸ List.mem_cons_self
    exact ⟨c, hc, isBlank_of_isIdentifierPart (hplain c hc)⟩

theorem isNamed_of_checkIdentifiers {s : Service} (h : s.checkIdentifiers = .ok ()) :
    s.IsNamed := by
  obtain ⟨hname, hoperations⟩ := isIdentifier_of_checkIdentifiers h
  constructor
  · exact isVisible_of_isIdentifier hname
  · intro o ho
    exact isVisible_of_isIdentifier (hoperations o ho)

end Service

namespace Pipeline

/-! ## Staging controllers -/

/-- The unit is the controller of the service, under the name of the service's unit. -/
structure IsController (renderer : Renderer) (s : Service) (unit : GeneratedUnit) : Prop where
  name : unit.name = s.unitName
  text : renderer.controller s = .ok unit.text

variable {renderer : Renderer} {services : List Service} {units : List GeneratedUnit}

theorem exists_isController (h : ∀ s ∈ services, ∃ text, renderer.controller s = .ok text) :
    ∃ units, List.Forall₂ (IsController renderer) services units := by
  induction services with
  | nil => exact ⟨[], .nil⟩
  | cons s services ih =>
    obtain ⟨⟨text, htext⟩, hrest⟩ := List.forall_mem_cons.mp h
    obtain ⟨units, hunits⟩ := ih hrest
    exact ⟨⟨s.unitName, text⟩ :: units, .cons ⟨rfl, htext⟩ hunits⟩

/-- Once all controllers are rendered, only their names matter. -/
theorem stageControllers_eq (h : List.Forall₂ (IsController renderer) services units)
    (staging : Staging) : stageControllers renderer staging services = staging.addAll units := by
  induction h generalizing staging with
  | nil => rfl
  | @cons s unit services units hunit _ ih =>
    obtain ⟨name, text⟩ := unit
    obtain ⟨rfl, htext⟩ := hunit
    simp only [stageControllers, Staging.addAll, htext, ← ih]
    rfl

/-- What is staged is a controller for each service, whatever was staged before. -/
theorem exists_of_stageControllers {staging staged : Staging}
    (h : stageControllers renderer staging services = .ok staged) :
    ∃ units, List.Forall₂ (IsController renderer) services units ∧
      staging.addAll units = .ok staged := by
  induction services generalizing staging with
  | nil => exact ⟨[], .nil, h⟩
  | cons s services ih =>
    rw [stageControllers] at h
    obtain ⟨text, htext, h⟩ := eq_ok_of_bind h
    obtain ⟨staging', hadd, h⟩ := eq_ok_of_bind h
    obtain ⟨units, hunits, hrest⟩ := ih h
    refine ⟨⟨s.unitName, text⟩ :: units, .cons ⟨rfl, htext⟩ hunits, ?_⟩
    rw [Staging.addAll, hadd]
    exact hrest

theorem map_name_eq (h : List.Forall₂ (IsController renderer) services units) :
    units.map GeneratedUnit.name = services.map Service.unitName := by
  induction h with
  | nil => rfl
  | cons hunit _ ih => rw [List.map_cons, List.map_cons, hunit.name, ih]

theorem controllerUnits_eq (h : List.Forall₂ (IsController renderer) services units)
    (hnodup : (services.map Service.unitName).Nodup) :
    controllerUnits renderer services = .ok units := by
  rw [controllerUnits, stageControllers_eq h]
  rcases Staging.consistent_empty.addAll units with ⟨staging, hadd, -, hstaged⟩ | ⟨name, hname, -⟩
  · rw [hadd, ← List.nil_append units]
    exact congrArg Except.ok hstaged
  · rw [Staging.empty, List.nil_append, map_name_eq h] at hname
    exact absurd hnodup hname.not_nodup

/-- Controllers that are handed over have different names. -/
theorem isController_of_controllerUnits (h : controllerUnits renderer services = .ok units) :
    List.Forall₂ (IsController renderer) services units ∧
      (services.map Service.unitName).Nodup := by
  rw [controllerUnits] at h
  cases hstage : stageControllers renderer .empty services with
  | error fault =>
    rw [hstage] at h
    cases h
  | ok staged =>
    rw [hstage] at h
    obtain rfl : staged.units = units := Except.ok.inj h
    obtain ⟨found, hfound, hadd⟩ := exists_of_stageControllers hstage
    rcases Staging.consistent_empty.addAll found with ⟨staged', hadd', hconsistent, hunits⟩ |
      ⟨name, -, hadd'⟩
    · obtain rfl := Except.ok.inj (hadd.symm.trans hadd')
      rw [Staging.empty, List.nil_append] at hunits
      rw [← map_name_eq hfound, hunits]
      exact ⟨hfound, hunits ▸ hconsistent.nodup⟩
    · rw [hadd] at hadd'
      cases hadd'

end Pipeline

/-! ## The two phases -/

theorem AuxiliaryText.find?_append_cons {before after : List AuxiliaryText} {t : AuxiliaryText}
    {suffix : String} (hbefore : ∀ u ∈ before, ¬ suffix.toList <:+ u.path.toList)
    (ht : suffix.toList <:+ t.path.toList) :
    find? (before ++ t :: after) suffix = some t := by
  have hnone : List.find? (·.hasSuffix suffix) before = none := by
    rw [List.find?_eq_none]
    intro u hu hsuffix
    exact hbefore u hu (List.isSuffixOf_iff_suffix.mp hsuffix)
  rw [find?, List.find?_append, hnone, Option.none_or, List.find?_cons_of_pos]
  exact List.isSuffixOf_iff_suffix.mpr ht

/-- Let the services extracted from a snapshot pass the checks on them.  Where their model is the
schema, the controller pipeline registers the controllers of exactly these services, in order. -/
theorem runControllers_modelText {namespaceName : String} {target : Option String}
    {snapshot : Snapshot} {services : List Service}
    (hservices : (Extraction.extract namespaceName target snapshot).value = services)
    (hunique : Service.checkUnique services = .ok ())
    (hfit : ∀ s ∈ services, s.checkIdentifiers = .ok ())
    {config : Config} {fileName : String} (hconfig : config.schemaFileName = some fileName)
    {request : Request} {before after : List AuxiliaryText} {path : String}
    (htexts : request.texts = before ++ ⟨path, Service.modelText services⟩ :: after)
    (hbefore : ∀ t ∈ before, ¬ fileName.toList <:+ t.path.toList)
    (hpath : fileName.toList <:+ path.toList) (hyaml : ¬ ".yaml".toList <:+ path.toList)
    (hyml : ¬ ".yml".toList <:+ path.toList) :
    ∃ units, Pipeline.runControllers Renderer.builtIn config request =
        pure (.registered units) ∧
      List.Forall₂ (Pipeline.IsController Renderer.builtIn) services units := by
  have hnamespace : ∀ s ∈ services, s.sourceNamespace = namespaceName := by
    intro s hs
    rw [← hservices] at hs
    exact Extraction.sourceNamespace_of_mem_extract hs
  have hfind : AuxiliaryText.find? request.texts fileName =
      some ⟨path, Service.modelText services⟩ := by
    rw [htexts]
    exact AuxiliaryText.find?_append_cons hbefore hpath
  have hload : Schema.load request.texts fileName = .ok (some services) := by
    have hparse := Schema.parse_modelText_of_isNamed (Schema.isYaml_eq_false hyaml hyml)
      fun s hs => Service.isNamed_of_checkIdentifiers (hfit s hs)
    rw [Schema.load, hfind]
    dsimp only
    rw [hparse]
    rfl
  have hrender : ∀ s ∈ services, ∃ text, Renderer.builtIn.controller s = .ok text := by
    intro s hs
    obtain ⟨text, htext, -⟩ := ControllerView.controller_eq (hfit s hs)
    exact ⟨text, htext⟩
  obtain ⟨units, hunits⟩ := Pipeline.exists_isController hrender
  refine ⟨units, ?_, hunits⟩
  rw [Pipeline.runControllers, hconfig]
  dsimp only
  rw [hload]
  dsimp only
  rw [Pipeline.controllerUnits_eq hunits (Service.nodup_unitName hunique hnamespace)]
  rfl

/-- Two services of a namespace; a class of the same name in another namespace is none of them. -/
theorem runControllers_modelText_billing :
    let charge : Member := ⟨"charge", .ordinary, .everywhere, "Receipt"⟩
    let snapshot : Snapshot :=
      ⟨[⟨"billing.rs", [⟨"Billing", "acme", .everywhere, [charge, charge]⟩,
          ⟨"Billing", "legacy", .everywhere, [charge]⟩, ⟨"Ledger", "acme", .everywhere, []⟩]⟩]⟩
    let services := (Extraction.extract "acme" (some "api") snapshot).value
    let texts : List AuxiliaryText :=
      [⟨"notes.txt", ""⟩, ⟨"app/services.json", Service.modelText services⟩]
    services.map Service.name = ["Billing", "Ledger"] ∧
      ∃ units, Pipeline.runControllers Renderer.builtIn ⟨some "services.json", none, none⟩
          ⟨"app", ⟨[]⟩, texts⟩ = pure (.registered units) ∧
        List.Forall₂ (Pipeline.IsController Renderer.builtIn) services units := by
  intro charge snapshot services texts
  have htexts : texts =
      [⟨"notes.txt", ""⟩] ++ ⟨"app/services.json", Service.modelText services⟩ :: [] := rfl
  refine ⟨rfl, ?_⟩
  exact runControllers_modelText rfl (by decide) (by decide) rfl htexts (by decide) (by decide)
    (by decide) (by decide)

end ServiceStubs
