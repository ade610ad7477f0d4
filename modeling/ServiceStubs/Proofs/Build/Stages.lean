import ServiceStubs.Build
import ServiceStubs.Proofs.Run.Commit
import ServiceStubs.Proofs.Schema

/-!
# The stages of a build

A build reads its auxiliary files, then its sources if the configuration names a namespace for
services, then it runs and writes.  The sources are all read before any of them is analyzed, and the
first that is not well formed is at fault.  Only writing changes the disk.
-/

namespace ServiceStubs

variable {texts : List AuxiliaryText}

/-! ## What is asked for -/

/-- The configuration among the texts can be read, and names a namespace for services. -/
def Config.NamesServices (texts : List AuxiliaryText) : Prop :=
  ∃ found config, AuxiliaryText.find? texts fileName = some found ∧
    read found.path found.text = .ok config ∧ config.servicesNamespace ≠ none

/-- There are items to be read from the text of the source. -/
def SourceText.IsWellFormed (file : SourceText) : Prop :=
  ∃ items, Rust.items? file.text = some items

theorem Build.needsSources_iff :
    needsSources (Config.resolve texts).value = true ↔ Config.NamesServices texts := by
  rw [Config.value_resolve, Config.NamesServices]
  cases AuxiliaryText.find? texts Config.fileName with
  | none => simp [needsSources]
  | some found =>
    cases hread : Config.read found.path found.text with
    | error fault => simp [needsSources, Except.map, hread]
    | ok config => simp [needsSources, Except.map, hread, Option.isSome_iff_ne_none]

instance (texts : List AuxiliaryText) : Decidable (Config.NamesServices texts) :=
  decidable_of_iff _ Build.needsSources_iff

/-! ## Analysis -/

/-- The first item without the property fails the row. -/
theorem FirstWithout.mapM_eq_error {ε α β : Type} {P : α → Prop} {f : α → Except ε β}
    {as : List α} {i : Nat} {a : α} {e : ε} (h : FirstWithout P as i a)
    (hP : ∀ a, P a → ∃ b, f a = .ok b) (ha : f a = .error e) : as.mapM f = .error e := by
  induction as generalizing i with
  | nil => exact absurd h FirstWithout.not_nil
  | cons first as ih =>
    rw [List.mapM_cons, bind_eq_error]
    by_cases hfirst : P first
    · obtain ⟨j, -, hrest⟩ := (FirstWithout.cons_of_holds hfirst).mp h
      obtain ⟨b, hb⟩ := hP first hfirst
      exact .inr ⟨b, hb, bind_eq_error.mpr (.inl (ih hrest))⟩
    · obtain ⟨-, rfl⟩ := (FirstWithout.cons_of_not hfirst).mp h
      exact .inl ha

namespace Snapshot

variable {sources : List SourceText} {file : SourceText} {i : Nat}

theorem exists_findingsOf (h : file.IsWellFormed) (wording : Wording) :
    ∃ found, Rust.findingsOf file wording = .ok found := by
  obtain ⟨items, hitems⟩ := h
  exact ⟨_, by rw [Rust.findingsOf, hitems]⟩

theorem exists_ofRust (h : ∀ file ∈ sources, file.IsWellFormed) (wording : Wording) :
    ∃ snapshot, ofRust sources wording = .ok snapshot := by
  obtain ⟨found, hfound⟩ :=
    exists_mapM_eq_ok fun file hfile => exists_findingsOf (h file hfile) wording
  exact ⟨Rust.snapshotOf found, by rw [ofRust, hfound]; rfl⟩

/-- The first source that is not well formed decides. -/
theorem ofRust_of_firstWithout (h : FirstWithout SourceText.IsWellFormed sources i file)
    (wording : Wording) : ofRust sources wording =
      .error (.sourceUnparseable file.path (wording.source file.text)) := by
  have hnone : Rust.items? file.text = none := Option.eq_none_iff_forall_not_mem.mpr
    fun items hitems => h.2.1 ⟨items, hitems⟩
  have hfault : Rust.findingsOf file wording =
      .error (.sourceUnparseable file.path (wording.source file.text)) := by
    rw [Rust.findingsOf, hnone]
  rw [ofRust, map_eq_error]
  exact h.mapM_eq_error (fun _ hfile => exists_findingsOf hfile wording) hfault

end Snapshot

namespace Build

variable {b : Build} {d d' : Disk} {report : Report}
variable {wording : Wording} {fates : Disk.WriteFates}

/-! ## Reading -/

/-- The path leads to a source file of the root. -/
def IsSourcePath (d : Disk) (root : SourceRoot) (path : String) : Prop :=
  ∃ found names, sourceNames d root = .ok found ∧ names ∈ found ∧
    path = names.foldl Path.join root.directory

theorem mem_auxiliaryFiles {texts : List AuxiliaryText} (h : b.readAuxiliary d = .ok texts) :
    ∀ t ∈ texts, t.path ∈ b.auxiliaryFiles := by
  intro t ht
  obtain ⟨path, hpath, hread⟩ := exists_of_mapM_eq_ok h ht
  obtain ⟨text, -, htext⟩ := eq_ok_of_bind hread
  obtain rfl := Except.ok.inj htext
  exact hpath

theorem exists_isSourcePath {sources : List SourceText} (h : b.readSources d = .ok sources) :
    ∀ file ∈ sources, ∃ root ∈ b.sourceRoots, IsSourcePath d root file.path := by
  intro file hfile
  rw [readSources] at h
  obtain ⟨parts, hparts, hflatten⟩ := eq_ok_of_bind h
  obtain rfl := Except.ok.inj hflatten
  obtain ⟨part, hpart, hfile⟩ := List.mem_flatten.mp hfile
  obtain ⟨root, hroot, hread⟩ := exists_of_mapM_eq_ok hparts hpart
  obtain ⟨found, hfound, hfiles⟩ := eq_ok_of_bind hread
  obtain ⟨names, hnames, hsource⟩ := exists_of_mapM_eq_ok hfiles hfile
  obtain ⟨text, -, htext⟩ := eq_ok_of_bind hsource
  obtain rfl := Except.ok.inj htext
  exact ⟨root, hroot, found, names, hfound, hnames, rfl⟩

/-- A root of sources cannot be walked, or a source file in one cannot be read. -/
def LacksSources (b : Build) (d : Disk) : Prop :=
  ∃ root ∈ b.sourceRoots, (∃ e, d.find root.directory = .error e) ∨
    ∃ path, IsSourcePath d root path ∧ d.readText? path = none

theorem readText_eq_ok {path text : String} :
    readText d path = .ok text ↔ d.readText? path = some text := by
  rw [readText]
  constructor
  · intro h
    split at h
    · next found hfound => rw [hfound, Except.ok.inj h]
    · cases h
  · intro h
    rw [h]

theorem exists_fault_of_auxiliary {path : String} (hpath : path ∈ b.auxiliaryFiles)
    (hnone : d.readText? path = none) : ∃ fault, b.readAuxiliary d = .error fault := by
  cases hread : b.readAuxiliary d with
  | error fault => exact ⟨fault, rfl⟩
  | ok texts =>
    obtain ⟨t, -, hstep⟩ := forall_of_mapM_eq_ok hread path hpath
    obtain ⟨text, htext, -⟩ := eq_ok_of_bind hstep
    rw [readText_eq_ok.mp htext] at hnone
    cases hnone

theorem exists_fault_of_lacksSources (h : b.LacksSources d) :
    ∃ fault, b.readSources d = .error fault := by
  cases hread : b.readSources d with
  | error fault => exact ⟨fault, rfl⟩
  | ok sources =>
    obtain ⟨root, hroot, hlack⟩ := h
    obtain ⟨parts, hparts, -⟩ := eq_ok_of_bind hread
    obtain ⟨part, -, hpart⟩ := forall_of_mapM_eq_ok hparts root hroot
    obtain ⟨found, hfound, hfiles⟩ := eq_ok_of_bind hpart
    exfalso
    rcases hlack with ⟨e, he⟩ | ⟨path, ⟨found', names, hfound', hnames, rfl⟩, hnone⟩
    · rw [sourceNames, he] at hfound
      cases hfound
    · obtain rfl := Except.ok.inj (hfound.symm.trans hfound')
      obtain ⟨file, -, hfile⟩ := forall_of_mapM_eq_ok hfiles names hnames
      obtain ⟨text, htext, -⟩ := eq_ok_of_bind hfile
      rw [readText_eq_ok.mp htext] at hnone
      cases hnone

/-! ## Running -/

/-- The declarations that a build hands to its run: those of its sources, or none if the
configuration does not ask for them. -/
def Declares (b : Build) (d : Disk) (wording : Wording) (texts : List AuxiliaryText)
    (declarations : Snapshot) : Prop :=
  Config.NamesServices texts ∧ (∃ sources, b.readSources d = .ok sources ∧
      Snapshot.ofRust sources wording = .ok declarations) ∨
    ¬ Config.NamesServices texts ∧ declarations = ⟨[]⟩

/-- How a build ends, and with which disk. -/
inductive Ends (b : Build) (d : Disk) (wording : Wording) (fates : Disk.WriteFates) :
    Except BuildFault Report → Disk → Prop where
  | auxiliaryUnread {fault : BuildFault} (h : b.readAuxiliary d = .error fault) :
      Ends b d wording fates (.error fault) d
  | sourcesUnread {texts : List AuxiliaryText} {fault : BuildFault}
      (htexts : b.readAuxiliary d = .ok texts) (hneeded : Config.NamesServices texts)
      (h : b.readSources d = .error fault) : Ends b d wording fates (.error fault) d
  | unanalyzed {texts : List AuxiliaryText} {sources : List SourceText} {fault : Fault}
      (htexts : b.readAuxiliary d = .ok texts) (hneeded : Config.NamesServices texts)
      (hsources : b.readSources d = .ok sources)
      (h : Snapshot.ofRust sources wording = .error fault) :
      Ends b d wording fates (.ok (.failed [fault.toDiagnostic])) d
  | unwritable {texts : List AuxiliaryText} {declarations : Snapshot} {cause : Fault} {d' : Disk}
      (htexts : b.readAuxiliary d = .ok texts)
      (hdeclarations : b.Declares d wording texts declarations)
      (h : d.writeUnits b.outputDirectory
        ((Request.mk b.moduleName declarations texts).run .builtIn wording).value.units fates =
          (.error cause, d')) :
      Ends b d wording fates (.error (.unwritable cause)) d'
  | written {texts : List AuxiliaryText} {declarations : Snapshot} {report : Report} {d' : Disk}
      (htexts : b.readAuxiliary d = .ok texts)
      (hdeclarations : b.Declares d wording texts declarations)
      (hreport : report =
        ((Request.mk b.moduleName declarations texts).run .builtIn wording).value)
      (h : d.writeUnits b.outputDirectory report.units fates = (.ok (), d')) :
      Ends b d wording fates (.ok report) d'

theorem value_run_of_texts (htexts : b.readAuxiliary d = .ok texts) :
    (b.run d wording fates).value =
      match b.declarations d (needsSources (Config.resolve texts).value) wording with
      | .error fault => (.error fault, d)
      | .ok (.error report) => (.ok report, d)
      | .ok (.ok declarations) =>
        (b.finish d ⟨b.moduleName, declarations, texts⟩ wording fates).value := by
  rw [run, htexts]
  dsimp only
  rw [Noted.value_bind]
  rcases b.declarations d (needsSources (Config.resolve texts).value) wording with
    fault | report | declarations <;> rfl

theorem value_finish (b : Build) (d : Disk) (request : Request) (wording : Wording)
    (fates : Disk.WriteFates) :
    let report := (request.run .builtIn wording).value
    (b.finish d request wording fates).value =
      match d.writeUnits b.outputDirectory report.units fates with
      | (.ok (), d') => (.ok report, d')
      | (.error cause, d') => (.error (.unwritable cause), d') := by
  intro report
  rw [finish, Noted.value_bind]
  rcases d.writeUnits b.outputDirectory report.units fates with ⟨cause | _, d'⟩ <;> rfl

theorem declarations_of_needed (h : Config.NamesServices texts) :
    b.declarations d (needsSources (Config.resolve texts).value) wording =
      (b.readSources d).map fun sources =>
        (Snapshot.ofRust sources wording).mapError fun fault => .failed [fault.toDiagnostic] := by
  rw [needsSources_iff.mpr h, declarations, if_pos rfl]
  cases b.readSources d with
  | error fault => rfl
  | ok sources =>
    simp only [bind, Except.bind, Except.map]
    cases Snapshot.ofRust sources wording <;> rfl

theorem declarations_of_declares {declarations : Snapshot}
    (h : b.Declares d wording texts declarations) :
    b.declarations d (needsSources (Config.resolve texts).value) wording =
      .ok (.ok declarations) := by
  rcases h with ⟨hneeded, sources, hsources, hanalysis⟩ | ⟨hneeded, rfl⟩
  · rw [declarations_of_needed hneeded, hsources]
    simp only [Except.map, Except.mapError, hanalysis]
  · rw [Bool.eq_false_iff.mpr (mt needsSources_iff.mp hneeded)]
    rfl

theorem value_run_of_declares {declarations : Snapshot} (htexts : b.readAuxiliary d = .ok texts)
    (h : b.Declares d wording texts declarations) :
    (b.run d wording fates).value =
      (b.finish d ⟨b.moduleName, declarations, texts⟩ wording fates).value := by
  rw [value_run_of_texts htexts, declarations_of_declares h]

/-- A build ends in one way. -/
theorem Ends.value_run {result : Except BuildFault Report}
    (h : b.Ends d wording fates result d') : (b.run d wording fates).value = (result, d') := by
  cases h with
  | auxiliaryUnread h =>
    rw [run, h]
    rfl
  | sourcesUnread htexts hneeded h =>
    rw [value_run_of_texts htexts, declarations_of_needed hneeded, h]
    rfl
  | unanalyzed htexts hneeded hsources h =>
    rw [value_run_of_texts htexts, declarations_of_needed hneeded, hsources]
    simp only [Except.map, Except.mapError, h]
  | unwritable htexts hdeclarations h =>
    rw [value_run_of_declares htexts hdeclarations, value_finish, h]
  | written htexts hdeclarations hreport h =>
    rw [value_run_of_declares htexts hdeclarations, value_finish, ← hreport, h]

theorem exists_ends (b : Build) (d : Disk) (wording : Wording) (fates : Disk.WriteFates) :
    ∃ result d', b.Ends d wording fates result d' := by
  cases htexts : b.readAuxiliary d with
  | error fault => exact ⟨_, _, .auxiliaryUnread htexts⟩
  | ok texts =>
    have hfinish {declarations : Snapshot} (h : b.Declares d wording texts declarations) :
        ∃ result d', b.Ends d wording fates result d' := by
      rcases hwrite : d.writeUnits b.outputDirectory
        ((Request.mk b.moduleName declarations texts).run .builtIn wording).value.units fates with
        ⟨cause | _, d'⟩
      · exact ⟨_, _, .unwritable htexts h hwrite⟩
      · exact ⟨_, _, .written htexts h rfl hwrite⟩
    by_cases hneeded : Config.NamesServices texts
    · cases hsources : b.readSources d with
      | error fault => exact ⟨_, _, .sourcesUnread htexts hneeded hsources⟩
      | ok sources =>
        cases hanalysis : Snapshot.ofRust sources wording with
        | error fault => exact ⟨_, _, .unanalyzed htexts hneeded hsources hanalysis⟩
        | ok declarations => exact hfinish (.inl ⟨hneeded, sources, hsources, hanalysis⟩)
    · exact hfinish (.inr ⟨hneeded, rfl⟩)

theorem ends_iff {result : Except BuildFault Report} :
    b.Ends d wording fates result d' ↔ (b.run d wording fates).value = (result, d') := by
  refine ⟨Ends.value_run, fun hrun => ?_⟩
  obtain ⟨_, _, hends⟩ := exists_ends b d wording fates
  cases hends.value_run.symm.trans hrun
  exact hends

/-- The first source that is not well formed ends the build, and the disk stays as it is. -/
theorem value_run_of_firstWithout {sources : List SourceText} {i : Nat} {file : SourceText}
    (htexts : b.readAuxiliary d = .ok texts) (hneeded : Config.NamesServices texts)
    (hsources : b.readSources d = .ok sources)
    (hfirst : FirstWithout SourceText.IsWellFormed sources i file) :
    (b.run d wording fates).value = (.ok ⟨.failed, [], [⟨"SG0006", .error,
      "Failed to parse source: " ++ wording.source file.text, some file.path⟩]⟩, d) :=
  ends_iff.mp (.unanalyzed htexts hneeded hsources
    (Snapshot.ofRust_of_firstWithout hfirst wording))

end Build

end ServiceStubs
