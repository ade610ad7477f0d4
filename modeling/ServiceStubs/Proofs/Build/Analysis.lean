import ServiceStubs.Proofs.Build.Stages
import ServiceStubs.Proofs.Run.Dependence

/-!
# Analysis on demand

A build analyzes its sources only if its configuration names a namespace for services.  Nothing of
this is to be seen: the run that would be handed the declarations of the sources reports the same
without them.
-/

namespace ServiceStubs

/-- Where no namespace is named, a run makes nothing of its declarations. -/
theorem Request.agrees_of_not_namesServices {texts : List AuxiliaryText}
    (h : ¬ Config.NamesServices texts) (moduleName : String) (declarations others : Snapshot) :
    Request.Agrees ⟨moduleName, declarations, texts⟩ ⟨moduleName, others, texts⟩ where
  config := rfl
  schema := fun _ _ _ _ => rfl
  program := by
    rintro config ⟨found, hfound, hread⟩ hservices
    exact absurd ⟨found, config, hfound, hread, hservices⟩ h

namespace Build

variable {b : Build} {d : Disk} {texts : List AuxiliaryText} {declarations : Snapshot}
variable {wording : Wording}

/-- The build reports what a run reports on the texts and the declarations, as long as the units of
that are written. -/
def ReportsOn (b : Build) (d : Disk) (wording : Wording) (texts : List AuxiliaryText)
    (declarations : Snapshot) : Prop :=
  let report := ((Request.mk b.moduleName declarations texts).run .builtIn wording).value
  ∀ fates d', d.writeUnits b.outputDirectory report.units fates = (.ok (), d') →
    (b.run d wording fates).value = (.ok report, d')

theorem Declares.reportsOn (h : b.Declares d wording texts declarations)
    (htexts : b.readAuxiliary d = .ok texts) : b.ReportsOn d wording texts declarations :=
  fun _ _ hwrite => ends_iff.mp (.written htexts h rfl hwrite)

/-- Without a namespace for services all declarations are as good as none. -/
theorem reportsOn_of_not_namesServices (h : ¬ Config.NamesServices texts)
    (htexts : b.readAuxiliary d = .ok texts) (declarations : Snapshot) :
    b.ReportsOn d wording texts declarations := by
  have hnone : b.ReportsOn d wording texts ⟨[]⟩ := Declares.reportsOn (.inr ⟨h, rfl⟩) htexts
  have hagrees := Request.agrees_of_not_namesServices h b.moduleName declarations ⟨[]⟩
  have hrun := hagrees.run .builtIn wording
  unfold ReportsOn
  rw [hrun]
  exact hnone

end Build

/-- Let the auxiliary files of a build be read.  If its sources can be read and are well formed, it
reports what a run reports on their declarations.  If the configuration is missing, malformed or
without a namespace for services, the build reports what a run reports on any declarations at all,
whatever its sources are.  Otherwise the first source that is not well formed alone decides. -/
theorem build_analyzes_on_demand {b : Build} {d : Disk} {texts : List AuxiliaryText}
    (htexts : b.readAuxiliary d = .ok texts) (wording : Wording) :
    (∀ sources, b.readSources d = .ok sources → (∀ file ∈ sources, file.IsWellFormed) →
      ∃ declarations, Snapshot.ofRust sources wording = .ok declarations ∧
        b.ReportsOn d wording texts declarations) ∧
    (¬ Config.NamesServices texts → ∀ declarations, b.ReportsOn d wording texts declarations) ∧
    (Config.NamesServices texts → ∀ sources i file, b.readSources d = .ok sources →
      FirstWithout SourceText.IsWellFormed sources i file →
        ∀ fates, (b.run d wording fates).value = (.ok ⟨.failed, [], [⟨"SG0006", .error,
          "Failed to parse source: " ++ wording.source file.text, some file.path⟩]⟩, d)) := by
  refine ⟨fun sources hsources hall => ?_, fun hnone => ?_, ?_⟩
  · obtain ⟨declarations, hdeclarations⟩ := Snapshot.exists_ofRust hall wording
    refine ⟨declarations, hdeclarations, ?_⟩
    by_cases hneeded : Config.NamesServices texts
    · exact Build.Declares.reportsOn (.inl ⟨hneeded, sources, hsources, hdeclarations⟩) htexts
    · exact Build.reportsOn_of_not_namesServices hneeded htexts declarations
  · exact Build.reportsOn_of_not_namesServices hnone htexts
  · intro hneeded sources i file hsources hfirst fates
    exact Build.value_run_of_firstWithout htexts hneeded hsources hfirst

/-- A source that is not well formed is in nobody's way if only a schema is asked for. -/
theorem build_analyzes_on_demand_schema :
    let b : Build := ⟨"app", "out", [⟨"src", "app"⟩], ["analyzer.config.json", "s.json"]⟩
    let d : Disk :=
      ⟨[(["work"], .directory), (["src", "work"], .directory),
        (["lib.rs", "src", "work"], .file (.text "pub struct \x7b")),
        (["analyzer.config.json", "work"], .file (.text "\x7b\"JsonSchema\":\"s.json\"\x7d")),
        (["s.json", "work"], .file (.text "[\x7b\"Name\":\"Ledger\"\x7d]"))], ["work"]⟩
    let texts : List AuxiliaryText :=
      [⟨"analyzer.config.json", "\x7b\"JsonSchema\":\"s.json\"\x7d"⟩,
        ⟨"s.json", "[\x7b\"Name\":\"Ledger\"\x7d]"⟩]
    let report := ((Request.mk b.moduleName ⟨[]⟩ texts).run .builtIn).value
    b.readAuxiliary d = .ok texts ∧ Rust.items? "pub struct \x7b" = none ∧
      ¬ Config.NamesServices texts ∧ report.state = .registered 1 ∧
      ∃ d', (b.run d).value = (.ok report, d') := by
  intro b d texts report
  have htexts : b.readAuxiliary d = .ok texts := by decide +kernel
  have hnone : ¬ Config.NamesServices texts := by decide +kernel
  have hwrite : (d.writeUnits b.outputDirectory report.units).1.isOk = true := by decide +kernel
  refine ⟨htexts, by decide +kernel, hnone, by decide +kernel, ?_⟩
  rcases hwritten : d.writeUnits b.outputDirectory report.units with ⟨cause | _, d'⟩
  · rw [hwritten] at hwrite
    cases hwrite
  · exact ⟨d', (build_analyzes_on_demand htexts .plain).2.1 hnone ⟨[]⟩ {} d' hwritten⟩

end ServiceStubs
