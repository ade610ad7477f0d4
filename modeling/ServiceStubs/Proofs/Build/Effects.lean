import ServiceStubs.Proofs.Build.Stages
import ServiceStubs.Proofs.Disk.Writing
import ServiceStubs.Proofs.Run.Outcomes

/-!
# What a build does to the disk

A build that cannot read its files, or cannot analyze its sources, leaves the disk as it is.  Any
other build that does not register units makes the output directory and does nothing else.  One that
registers units puts each of them into a file of its own in the output directory.  For that the name
of the module must not lead into another directory.
-/

namespace ServiceStubs

open ServiceStubs.Disk (IsFileName KeptAt HoldsUnits)

/-! ## Units are named like files -/

theorem Naming.slash_not_mem_primarySegment {moduleName : String} (h : '/' ∉ moduleName.toList) :
    '/' ∉ (primarySegment moduleName).toList := by
  rw [primarySegment]
  split
  · next segment hsegment =>
    rw [String.toList_ofList]
    exact mt (mem_of_mem_splitAtAny (List.mem_of_find?_eq_some hsegment)) h
  · exact h

theorem Naming.IsPlainName.slash_not_mem {name : String} (h : IsPlainName name) :
    '/' ∉ name.toList := by
  intro hmem
  rcases h.chars '/' hmem with halpha | hunderscore
  · exact absurd halpha (by decide)
  · exact absurd hunderscore (by decide)

/-- What comes before the suffix of a generated unit may be anything without a slash. -/
theorem Disk.isFileName_append {stem : String} (h : '/' ∉ stem.toList) :
    IsFileName (stem ++ Naming.generatedSuffix) where
  slash := by
    rw [String.toList_append, List.mem_append, not_or]
    exact ⟨h, by decide⟩
  proper := by
    intro hmem
    have hshort : ∀ name ∈ ["", ".", ".."], name.length ≤ 2 := by decide
    have hlength := hshort _ hmem
    have hsuffix : Naming.generatedSuffix.length = 13 := by decide
    rw [String.length_append, hsuffix] at hlength
    omega

theorem Service.IsFit.isFileName {s : Service} (h : s.IsFit) : IsFileName s.unitName := by
  refine Disk.isFileName_append ?_
  rw [String.toList_append, List.mem_append, not_or]
  exact ⟨h.name.slash_not_mem, by decide⟩

theorem GeneratedUnit.IsNamedFor.isFileName {unit : GeneratedUnit} {moduleName : String}
    (h : unit.IsNamedFor moduleName) (hmodule : '/' ∉ moduleName.toList) :
    IsFileName unit.name := by
  rcases h with hname | ⟨s, hfit, hname⟩
  · rw [hname]
    exact Disk.isFileName_append (Naming.slash_not_mem_primarySegment hmodule)
  · rw [hname]
    exact hfit.isFileName

/-! ## Builds -/

namespace Build

variable {b : Build} {d d' : Disk} {report : Report}
variable {wording : Wording} {fates : Disk.WriteFates}

/-- Whatever a build reports, the disk holds its units and is otherwise as before. -/
theorem holdsUnits_of_run (hmodule : '/' ∉ b.moduleName.toList)
    (hrun : (b.run d wording fates).value = (.ok report, d')) :
    report.HasUnits b.moduleName ∧ HoldsUnits b.outputDirectory report.units d d' := by
  cases ends_iff.mpr hrun with
  | unanalyzed => exact ⟨.none rfl nofun, List.forall_mem_nil _, fun _ _ => .inl rfl⟩
  | @written texts declarations _ _ _ _ hreport hwrite =>
    have hunits : report.HasUnits b.moduleName :=
      hreport ▸ Request.hasUnits_of_run ⟨b.moduleName, declarations, texts⟩ wording
    refine ⟨hunits, Disk.holdsUnits_of_writeUnits (fun unit hunit => ?_) hunits.nodup hwrite⟩
    exact (hunits.isNamedFor unit hunit).isFileName hmodule

end Build

/-- Let the name of the module have no slash.  A build that cannot read its auxiliary files, or the
sources that its configuration asks for, fails and leaves the disk.  One with a source that is not
well formed reports the first such source and leaves the disk.  A build that ends well without
registering units keeps every entry, and makes at most the output directory and those on the way to
it.  A build that registered units has so many, with different names; each is the text of the file
of its name in the output directory, and what is elsewhere is kept. -/
theorem build_effects {b : Build} (hmodule : '/' ∉ b.moduleName.toList) (d : Disk)
    (wording : Wording) (fates : Disk.WriteFates) :
    ((∃ path ∈ b.auxiliaryFiles, d.readText? path = none) →
      ∃ fault, (b.run d wording fates).value = (.error fault, d)) ∧
    (∀ texts, b.readAuxiliary d = .ok texts → Config.NamesServices texts →
      (b.LacksSources d → ∃ fault, (b.run d wording fates).value = (.error fault, d)) ∧
      ∀ sources i file, b.readSources d = .ok sources →
        FirstWithout SourceText.IsWellFormed sources i file →
        (b.run d wording fates).value = (.ok ⟨.failed, [], [⟨"SG0006", .error,
          "Failed to parse source: " ++ wording.source file.text, some file.path⟩]⟩, d)) ∧
    ∀ report d', (b.run d wording fates).value = (.ok report, d') →
      (report.state = .idle ∨ report.state = .failed →
        ∀ l, KeptAt (d.OnTheWay b.outputDirectory) d d' l) ∧
      ∀ n, report.state = .registered n →
        report.units.length = n ∧ (report.units.map GeneratedUnit.name).Nodup ∧
          HoldsUnits b.outputDirectory report.units d d' := by
  refine ⟨?_, ?_, ?_⟩
  · rintro ⟨path, hpath, hnone⟩
    obtain ⟨fault, hfault⟩ := Build.exists_fault_of_auxiliary hpath hnone
    exact ⟨fault, Build.ends_iff.mp (.auxiliaryUnread hfault)⟩
  · intro texts htexts hneeded
    constructor
    · intro hlacks
      obtain ⟨fault, hfault⟩ := Build.exists_fault_of_lacksSources hlacks
      exact ⟨fault, Build.ends_iff.mp (.sourcesUnread htexts hneeded hfault)⟩
    · intro sources i file hsources hfirst
      exact Build.value_run_of_firstWithout htexts hneeded hsources hfirst
  · intro report d' hrun
    obtain ⟨hunits, hheld⟩ := Build.holdsUnits_of_run hmodule hrun
    cases hunits with
    | none hnone hstate =>
      refine ⟨fun _ l => hheld.others l ?_, fun n hn => absurd hn (hstate n)⟩
      rw [hnone]
      exact List.not_mem_nil
    | some hstate hnodup hnames =>
      rw [hstate]
      refine ⟨fun hother => ?_, ?_⟩
      · rcases hother with h | h <;> cases h
      · rintro n ⟨⟩
        exact ⟨rfl, hnodup, hheld⟩

/-- A schema with one service, and an output directory that is made together with the one above
it. -/
theorem build_effects_registered :
    let b : Build := ⟨"app", "target/out", [], ["analyzer.config.json", "s.json"]⟩
    let d : Disk :=
      ⟨[(["work"], .directory),
        (["analyzer.config.json", "work"], .file (.text "\x7b\"JsonSchema\":\"s.json\"\x7d")),
        (["s.json", "work"], .file (.text "[\x7b\"Name\":\"Ledger\"\x7d]"))], ["work"]⟩
    '/' ∉ b.moduleName.toList ∧ ∃ report d', (b.run d).value = (.ok report, d') ∧
      report.state = .registered 1 ∧ report.units.length = 1 ∧
      HoldsUnits b.outputDirectory report.units d d' := by
  intro b d
  have hmodule : '/' ∉ b.moduleName.toList := by decide
  have hstate : (b.run d).value.1.toOption.map Report.state = some (.registered 1) := by
    decide +kernel
  refine ⟨hmodule, ?_⟩
  rcases hrun : (b.run d).value with ⟨fault | report, d'⟩
  · rw [hrun] at hstate
    cases hstate
  · rw [hrun] at hstate
    have hregistered : report.state = .registered 1 := Option.some.inj hstate
    obtain ⟨hlength, -, hheld⟩ :=
      ((build_effects hmodule d .plain {}).2.2 report d' hrun).2 1 hregistered
    exact ⟨report, d', rfl, hregistered, hlength, hheld⟩

end ServiceStubs
