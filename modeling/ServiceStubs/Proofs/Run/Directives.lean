import ServiceStubs.Proofs.Build.Stages
import ServiceStubs.Proofs.Diagnostic
import ServiceStubs.Proofs.Json.Telling
import ServiceStubs.Proofs.Run.Outcomes

/-!
# The lines that a build prints

A build prints a line for each input to watch and one for each diagnostic.  Where the paths are on
one line each, and the reasons of readers whose wording is not known here, what is printed has
exactly these lines, unless a diagnostic quotes a name that has more: then the name starts lines of
its own.
-/

namespace ServiceStubs

open ServiceStubs.Text (IsOneLine)

/-- The readers give their reasons in one line each. -/
structure Wording.IsOneLine (wording : Wording) : Prop where
  yaml : ∀ text, Text.IsOneLine (wording.yaml text)
  source : ∀ text, Text.IsOneLine (wording.source text)

theorem Wording.isOneLine_plain : Wording.plain.IsOneLine where
  yaml _ := (by decide : Text.IsOneLine "no list of services in YAML")
  source _ := (by decide : Text.IsOneLine "no well-formed source text")

/-! ## Documents -/

namespace Config

theorem isTold_shape : shape.IsTold where
  label := by decide
  keys := by decide
  fields := by
    intro f hf s
    simp only [shape, List.mem_cons, List.not_mem_nil, or_false] at hf
    rcases hf with rfl | rfl | rfl <;>
      exact (Json.tells_readOptional Json.tells_readString s).map _

/-- A configuration that is malformed is told of in one line. -/
theorem Malformed.isTold {texts : List AuxiliaryText} {path : String} {e : Json.Error}
    (h : Malformed texts path e) (htexts : ∀ t ∈ texts, IsOneLine t.path) :
    (Fault.configMalformed path e.message).toDiagnostic.IsTold := by
  obtain ⟨found, hfound, rfl, hread⟩ := h
  have hreason := Json.isOneLine_message isTold_shape.read hread
  have hpath := htexts found (List.mem_of_find?_eq_some hfound)
  exact Fault.isTold_of_located rfl hpath (Fault.isOneLine_configMalformed hreason)

end Config

theorem Operation.isTold_shape : Operation.shape.IsTold where
  label := by decide
  keys := by decide
  fields := by
    intro f hf s
    simp only [shape, List.mem_cons, List.not_mem_nil, or_false] at hf
    rcases hf with rfl | rfl | rfl
    · exact (Json.tells_readString s).map _
    · exact (Json.tells_readOrEmpty Json.tells_readString s).map _
    · exact (Json.tells_readOrEmpty Json.tells_readString s).map _

theorem Service.isTold_shape : Service.shape.IsTold where
  label := by decide
  keys := by decide
  fields := by
    intro f hf s
    simp only [shape, List.mem_cons, List.not_mem_nil, or_false] at hf
    rcases hf with rfl | rfl | rfl | rfl
    · exact (Json.tells_readString s).map _
    · exact (Json.tells_readOrEmpty Json.tells_readString s).map _
    · exact (Json.tells_readOrEmpty Json.tells_readString s).map _
    · exact (Json.tells_readOrEmpty (Json.tells_readList Operation.isTold_shape.read) s).map _

namespace Schema

variable {path text fileName : String} {texts : List AuxiliaryText} {fault : Fault}
variable {wording : Wording}

theorem isTold_schemaMalformed {reason : String} (hpath : IsOneLine path)
    (hreason : IsOneLine reason) : (Fault.schemaMalformed path reason).toDiagnostic.IsTold :=
  Fault.isTold_of_located rfl hpath ((Fault.isOneLine_schemaMalformed path).mpr hreason)

theorem isTold_of_read (hwording : wording.IsOneLine) (hpath : IsOneLine path)
    (h : read path text wording = .error fault) : fault.toDiagnostic.IsTold := by
  rw [read] at h
  split at h
  · split at h
    · cases h
    · obtain rfl := Except.error.inj h
      exact isTold_schemaMalformed hpath (hwording.yaml text)
  · split at h
    · cases h
    · next e hread =>
      obtain rfl := Except.error.inj h
      exact isTold_schemaMalformed hpath
        (Json.isOneLine_message (Json.tells_readList Service.isTold_shape.read) hread)

theorem isTold_of_offends {index : Nat} {s : Service} {reason : String} (hpath : IsOneLine path)
    (h : Offends index s reason) : (Fault.schemaMalformed path reason).toDiagnostic.IsTold := by
  cases h with
  | service =>
    have hstart : IsOneLine "service at index " := by decide
    have hend : IsOneLine " has an empty Name" := by decide
    exact isTold_schemaMalformed hpath ((hstart.append (Text.isOneLine_toString index)).append hend)
  | operation => exact Fault.isTold_operation hpath _ _

theorem isTold_of_load (hwording : wording.IsOneLine) (htexts : ∀ t ∈ texts, IsOneLine t.path)
    (h : load texts fileName wording = .error fault) : fault.toDiagnostic.IsTold := by
  unfold load at h
  split at h
  · cases h
  · next found hfind =>
    have hpath := htexts found (List.mem_of_find?_eq_some hfind)
    rw [map_eq_error, parse, bind_eq_error] at h
    rcases h with hread | ⟨services, -, hnames⟩
    · exact isTold_of_read hwording hpath hread
    · split at hnames
      · next reason hblank =>
        obtain rfl := Except.error.inj hnames
        obtain ⟨i, s, -, hoffends⟩ := (firstBlankName?_eq_some_iff 0 services).mp hblank
        exact isTold_of_offends hpath hoffends
      · cases hnames

end Schema

/-! ## Names -/

theorem Naming.IsPlainName.isOneLine {name : String} (h : Naming.IsPlainName name) :
    IsOneLine name := by
  intro hmem
  rcases h.chars '\n' hmem with halpha | hunderscore
  · exact absurd halpha (by decide)
  · exact absurd hunderscore (by decide)

theorem Service.isOneLine_unitName {s : Service} (h : Naming.IsPlainName s.name) :
    IsOneLine s.unitName := by
  have hrole : IsOneLine "Controller" := by decide
  have hsuffix : IsOneLine Naming.generatedSuffix := by decide
  exact (h.isOneLine.append hrole).append hsuffix

theorem Service.Refused.isTold {earlier : List Service} {s : Service} {d : Diagnostic}
    (h : s.Refused earlier d) : d.IsTold := by
  cases h with
  | name =>
    have hfault : (Fault.invalidIdentifier s.name .service).toDiagnostic = _ :=
      toDiagnostic_invalidIdentifier s.name "' is not a valid service identifier" (by decide)
    rw [← hfault]
    exact Fault.isTold_invalidIdentifier s.name .service
  | @operation _ _ o =>
    have hfault : (Fault.invalidIdentifier (s.name ++ "." ++ o.name) .operation).toDiagnostic = _ :=
      toDiagnostic_invalidIdentifier _ "' is not a valid operation identifier" (by decide)
    rw [← hfault]
    exact Fault.isTold_invalidIdentifier _ .operation
  | unit hfit =>
    have hmessage := Fault.isOneLine_duplicateUnit (Service.isOneLine_unitName hfit.name)
    have htold := Fault.isTold_of_message hmessage nofun
    exact htold

/-! ## Pipelines -/

namespace Pipeline

variable {config : Config} {request : Request} {d : Diagnostic}

theorem isTold_of_runModel (h : (runModel .builtIn config request).value = .failed d) :
    d.IsTold := by
  rcases runModel_cases config request with hidle | ⟨name, services, hfailed⟩ | ⟨text, hunits⟩
  · rw [hidle] at h
    cases h
  · obtain rfl := Outcome.failed.inj (hfailed.symm.trans h)
    exact Fault.isTold_duplicateService name services
  · rw [hunits] at h
    cases h

theorem IsController.isOneLine {s : Service} {unit : GeneratedUnit}
    (h : IsController .builtIn s unit) : IsOneLine unit.name := by
  rw [h.name]
  exact Service.isOneLine_unitName h.isFit.name

theorem isTold_of_runControllers {wording : Wording} (hwording : wording.IsOneLine)
    (htexts : ∀ t ∈ request.texts, IsOneLine t.path)
    (h : (runControllers .builtIn config request wording).value = .failed d) : d.IsTold := by
  obtain ⟨fault, rfl, ⟨fileName, hload⟩ | ⟨services, i, s, hrefused⟩⟩ := failed_of_runControllers h
  · exact Schema.isTold_of_load hwording htexts hload
  · exact hrefused.refused.isTold

end Pipeline

/-! ## Runs -/

/-- Two units of a run clash only with the name of a controller. -/
theorem Report.Settles.isTold {model controllers : Outcome} {report : Report}
    (h : Settles model controllers report) (hnodup : (model.units.map GeneratedUnit.name).Nodup)
    (hnames : ∀ unit ∈ controllers.units, IsOneLine unit.name)
    (hmodel : ∀ d, model = .failed d → d.IsTold)
    (hcontrollers : ∀ d, controllers = .failed d → d.IsTold) :
    ∀ d ∈ report.diagnostics, d.IsTold := by
  refine h.forall_diagnostics hmodel hcontrollers fun name hname => ?_
  rw [List.map_append] at hname
  obtain ⟨unit, hunit, rfl⟩ := List.mem_map.mp (hname.mem_of_nodup hnodup)
  have htold := Fault.isTold_of_message (Fault.isOneLine_duplicateUnit (hnames unit hunit)) nofun
  exact htold

namespace Request

variable {request : Request} {d : Diagnostic}

theorem isTold_of_resolveConfig (htexts : ∀ t ∈ request.texts, IsOneLine t.path)
    (h : request.resolveConfig.value = .error d) : d.IsTold := by
  rw [value_resolveConfig] at h
  rcases Config.resolve_cases request.texts with ⟨path, e, hmalformed, hvalue⟩ |
    ⟨-, config, hvalue⟩
  · rw [hvalue] at h
    obtain rfl := Except.error.inj h
    exact hmalformed.isTold htexts
  · rw [hvalue] at h
    cases h

theorem isTold_of_run {wording : Wording} (hwording : wording.IsOneLine)
    (htexts : ∀ t ∈ request.texts, IsOneLine t.path) :
    ∀ d ∈ (request.run .builtIn wording).value.diagnostics, d.IsTold := by
  rcases report_of_run .builtIn request wording with ⟨d, hconfig, hrun⟩ | hrun | ⟨config, hsettles⟩
  · rw [hrun]
    exact List.forall_mem_singleton.mpr (isTold_of_resolveConfig htexts hconfig)
  · rw [hrun]
    exact List.forall_mem_nil _
  · refine hsettles.isTold (Pipeline.nodup_of_runModel config request) (fun unit hunit => ?_)
      (fun d => Pipeline.isTold_of_runModel)
      fun d => Pipeline.isTold_of_runControllers hwording htexts
    obtain ⟨s, hs⟩ := Pipeline.isController_of_runControllers hunit
    exact hs.isOneLine

end Request

/-! ## Builds -/

namespace Build

variable {b : Build} {d : Disk} {report : Report}
variable {wording : Wording} {fates : Disk.WriteFates}

theorem isOneLine_of_isSourcePath {root : SourceRoot} {found : List (List String)}
    (hfound : sourceNames d root = .ok found)
    (h : ∀ names ∈ found, IsOneLine (names.foldl Path.join root.directory)) :
    ∀ path, IsSourcePath d root path → IsOneLine path := by
  rintro _ ⟨found', names, hfound', hnames, rfl⟩
  obtain rfl := Except.ok.inj (hfound.symm.trans hfound')
  exact h names hnames

/-- Every path that the build goes by is on one line. -/
structure HasPlainPaths (b : Build) (d : Disk) : Prop where
  roots : ∀ root ∈ b.sourceRoots, IsOneLine root.directory
  sources : ∀ root ∈ b.sourceRoots, ∀ path, IsSourcePath d root path → IsOneLine path
  auxiliary : ∀ path ∈ b.auxiliaryFiles, IsOneLine path

theorem isTold_of_ofRust (hwording : wording.IsOneLine) {sources : List SourceText} {fault : Fault}
    (hsources : ∀ file ∈ sources, IsOneLine file.path)
    (h : Snapshot.ofRust sources wording = .error fault) : fault.toDiagnostic.IsTold := by
  rw [Snapshot.ofRust, map_eq_error] at h
  obtain ⟨file, hfile, hfindings⟩ := exists_of_mapM_eq_error h
  rw [Rust.findingsOf] at hfindings
  split at hfindings
  · cases hfindings
  · obtain rfl := Except.error.inj hfindings
    exact Fault.isTold_of_located rfl (hsources file hfile)
      (Fault.isOneLine_sourceUnparseable (hwording.source file.text))

theorem isTold_of_run (hwording : wording.IsOneLine) (hpaths : b.HasPlainPaths d)
    (h : (b.run d wording fates).value.1 = .ok report) :
    ∀ diagnostic ∈ report.diagnostics, diagnostic.IsTold := by
  obtain ⟨d', hrun⟩ : ∃ d', (b.run d wording fates).value = (.ok report, d') :=
    ⟨_, Prod.ext h rfl⟩
  cases ends_iff.mpr hrun with
  | unanalyzed _ _ hsources hfault =>
    refine List.forall_mem_singleton.mpr (isTold_of_ofRust hwording (fun file hfile => ?_) hfault)
    obtain ⟨root, hroot, hsource⟩ := exists_isSourcePath hsources file hfile
    exact hpaths.sources root hroot file.path hsource
  | written htexts _ hreport _ =>
    rw [hreport]
    exact Request.isTold_of_run hwording fun t ht => hpaths.auxiliary _ (mem_auxiliaryFiles htexts t ht)

/-- Only a diagnostic can break the line of its directive. -/
theorem isOneLine_directives_iff (hpaths : b.HasPlainPaths d) :
    (∀ line ∈ b.directives report, IsOneLine line) ↔
      ∀ diagnostic ∈ report.diagnostics, IsOneLine diagnostic.render := by
  have hwatch : IsOneLine "cargo:rerun-if-changed=" := by decide
  have hwarning : IsOneLine "cargo:warning=" := by decide
  constructor
  · intro h diagnostic hdiagnostic
    have hline := h _ (List.mem_append_right _ (List.mem_map_of_mem hdiagnostic))
    exact (Text.isOneLine_append.mp hline).2
  · intro h line hline
    rcases List.mem_append.mp hline with hwatched | hreported
    · obtain ⟨path, hpath, rfl⟩ := List.mem_map.mp hwatched
      refine hwatch.append ?_
      rcases List.mem_append.mp hpath with hdirectory | hfile
      · obtain ⟨root, hroot, rfl⟩ := List.mem_map.mp hdirectory
        exact hpaths.roots root hroot
      · exact hpaths.auxiliary path hfile
    · obtain ⟨diagnostic, hdiagnostic, rfl⟩ := List.mem_map.mp hreported
      exact hwarning.append (h diagnostic hdiagnostic)

end Build

/-- Let all paths of a build be on one line each, and the reasons that readers give.  The lines that
it prints are one for each source root, one for each auxiliary file and one for each diagnostic,
exactly if every name that a diagnostic quotes is on one line. -/
theorem directives_printed {b : Build} {d : Disk} {report : Report} {wording : Wording}
    {fates : Disk.WriteFates} (hwording : wording.IsOneLine) (hpaths : b.HasPlainPaths d)
    (hrun : (b.run d wording fates).value.1 = .ok report) :
    let directives :=
      b.sourceRoots.map ("cargo:rerun-if-changed=" ++ ·.directory) ++
        b.auxiliaryFiles.map ("cargo:rerun-if-changed=" ++ ·) ++
          report.diagnostics.map ("cargo:warning=" ++ ·.render)
    Text.lines (b.printed report).toList = directives.map String.toList ↔
      ∀ diagnostic ∈ report.diagnostics, ∀ name, diagnostic.Quotes name → IsOneLine name := by
  intro directives
  have hdirectives : b.directives report = directives := by
    simp only [directives, Build.directives, List.map_append, List.map_map]
    rfl
  rw [Build.printed, ← hdirectives, Text.lines_join_iff, Build.isOneLine_directives_iff hpaths]
  have htold := Build.isTold_of_run hwording hpaths hrun
  constructor
  · intro h diagnostic hdiagnostic
    exact (htold diagnostic hdiagnostic).isOneLine_iff.mp (h diagnostic hdiagnostic)
  · intro h diagnostic hdiagnostic
    exact (htold diagnostic hdiagnostic).isOneLine_iff.mpr (h diagnostic hdiagnostic)

/-- A schema whose service has no plain name: the build prints a line for its root, one for each of
its two files, and one for the diagnostic. -/
theorem directives_printed_digit :
    let b : Build := ⟨"app", "out", [⟨"src", "app"⟩], ["analyzer.config.json", "s.json"]⟩
    let d : Disk :=
      ⟨[(["work"], .directory), (["src", "work"], .directory),
        (["lib.rs", "src", "work"], .file (.text "")),
        (["analyzer.config.json", "work"], .file (.text "\x7b\"JsonSchema\":\"s.json\"\x7d")),
        (["s.json", "work"], .file (.text "[\x7b\"Name\":\"1st\"\x7d]"))], ["work"]⟩
    let told : Diagnostic := ⟨"SG0005", .error, "'1st' is not a valid service identifier", none⟩
    Wording.plain.IsOneLine ∧ b.HasPlainPaths d ∧ (b.run d).value.1 = .ok (.failed [told]) ∧
      Text.lines (b.printed (.failed [told])).toList =
        ["cargo:rerun-if-changed=src", "cargo:rerun-if-changed=analyzer.config.json",
          "cargo:rerun-if-changed=s.json",
          "cargo:warning=error[SG0005]: '1st' is not a valid service identifier"].map
            String.toList := by
  intro b d told
  have hsources : Build.sourceNames d ⟨"src", "app"⟩ = .ok [["lib.rs"]] := by decide +kernel
  have hpaths : b.HasPlainPaths d :=
    ⟨by decide, List.forall_mem_singleton.mpr
      (Build.isOneLine_of_isSourcePath hsources (by decide)), by decide⟩
  have hrun : (b.run d).value.1 = .ok (.failed [told]) := by decide +kernel
  have hquotes : ∀ diagnostic ∈ (Report.failed [told]).diagnostics, ∀ name,
      diagnostic.Quotes name → IsOneLine name :=
    List.forall_mem_singleton.mpr fun name hname => hname.isOneLine (by decide)
  exact ⟨Wording.isOneLine_plain, hpaths, hrun,
    (directives_printed Wording.isOneLine_plain hpaths hrun).mpr hquotes⟩

/-- A name with line breaks in it puts a directive of its own between those of the build. -/
theorem directives_printed_forged :
    let b : Build := ⟨"app", "out", [⟨"src", "app"⟩], ["analyzer.config.json", "s.json"]⟩
    let d : Disk :=
      ⟨[(["work"], .directory), (["src", "work"], .directory),
        (["lib.rs", "src", "work"], .file (.text "")),
        (["analyzer.config.json", "work"], .file (.text "\x7b\"JsonSchema\":\"s.json\"\x7d")),
        (["s.json", "work"],
          .file (.text "[\x7b\"Name\":\"a\\ncargo:rustc-cfg=x\\n\"\x7d]"))], ["work"]⟩
    b.HasPlainPaths d ∧ ∃ told, (b.run d).value.1 = .ok (.failed [told]) ∧
      Text.lines (b.printed (.failed [told])).toList =
        ["cargo:rerun-if-changed=src", "cargo:rerun-if-changed=analyzer.config.json",
          "cargo:rerun-if-changed=s.json", "cargo:warning=error[SG0005]: 'a", "cargo:rustc-cfg=x",
          "' is not a valid service identifier"].map String.toList := by
  intro b d
  have hsources : Build.sourceNames d ⟨"src", "app"⟩ = .ok [["lib.rs"]] := by decide +kernel
  refine ⟨⟨by decide, List.forall_mem_singleton.mpr
    (Build.isOneLine_of_isSourcePath hsources (by decide)), by decide⟩, ⟨"SG0005", .error,
      "'a\ncargo:rustc-cfg=x\n' is not a valid service identifier", none⟩, ?_, ?_⟩
  · decide +kernel
  · decide +kernel

end ServiceStubs
