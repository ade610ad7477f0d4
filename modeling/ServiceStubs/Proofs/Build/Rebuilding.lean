import ServiceStubs.Proofs.Build.Stages
import ServiceStubs.Proofs.Disk.Files
import ServiceStubs.Proofs.Disk.Rewriting

/-!
# Building again

A build whose units are written apart from what it reads finds the same inputs when it runs again.
It makes the same units of them, and writing these a second time changes nothing.
-/

namespace ServiceStubs

open ServiceStubs.Disk (IsFileName KeepsOthers)

theorem Disk.readText?_eq_some {d : Disk} {path text : String} :
    d.readText? path = some text ↔ ∃ l, d.find path = .ok (l, .file (.text text)) := by
  rw [readText?]
  constructor
  · intro h
    split at h
    · next l found hfind =>
      obtain rfl := Option.some.inj h
      exact ⟨l, hfind⟩
    · cases h
  · rintro ⟨l, hfind⟩
    rw [hfind]

/-- Names behind a directory lead into it. -/
theorem Disk.target_foldl_join (d : Disk) {names : List String}
    (h : ∀ name ∈ names, IsFileName name) (directory : String) :
    d.target (names.foldl Path.join directory) = names.reverse ++ d.target directory := by
  induction names generalizing directory with
  | nil => rfl
  | cons name names ih =>
    obtain ⟨hname, hnames⟩ := List.forall_mem_cons.mp h
    rw [List.foldl_cons, ih hnames, hname.target_join, List.reverse_cons, List.append_assoc]
    rfl

namespace Build

variable {b : Build} {d d' : Disk} {report : Report} {units : List GeneratedUnit}
variable {places : Disk.Location → Prop} {directory path text : String} {root : SourceRoot}

theorem readText_again (hkeeps : KeepsOthers places directory d d')
    (h : readText d path = .ok text) (hl : ¬ places (d.target path)) :
    readText d' path = .ok text := by
  obtain ⟨l, hfind⟩ := Disk.readText?_eq_some.mp (readText_eq_ok.mp h)
  obtain rfl := Disk.eq_target_of_find hfind
  exact readText_eq_ok.mpr (Disk.readText?_eq_some.mpr ⟨_, hkeeps.find hfind hl⟩)

theorem sourceNames_again {found : List (List String)}
    (hkeeps : KeepsOthers places directory d d') (hd : d.IsTree)
    (hplaces : ∀ l, d.target root.directory <:+ l → ¬ places l)
    (h : sourceNames d root = .ok found) : sourceNames d' root = .ok found := by
  rw [sourceNames] at h ⊢
  split at h
  · next l hfind =>
    obtain rfl := Disk.eq_target_of_find hfind
    rw [hkeeps.find hfind (hplaces _ (List.suffix_refl _))]
    dsimp only
    rw [hkeeps.files hd hplaces]
    exact h
  · next l c hfind =>
    obtain rfl := Disk.eq_target_of_find hfind
    rw [hkeeps.find hfind (hplaces _ (List.suffix_refl _))]
    exact h
  · cases h

theorem isFileName_of_sourceNames (hd : d.IsTree) {found : List (List String)}
    (h : sourceNames d root = .ok found) {names : List String} (hnames : names ∈ found) :
    ∀ name ∈ names, IsFileName name := by
  rw [sourceNames] at h
  split at h
  · obtain rfl := Except.ok.inj h
    obtain ⟨⟨_, c⟩, hfile, rfl⟩ := List.mem_map.mp (List.mem_filter.mp hnames).1
    exact hd.isFileName_of_mem_filesBelow hfile
  · obtain rfl := Except.ok.inj h
    split at hnames
    · obtain rfl := List.mem_singleton.mp hnames
      exact List.forall_mem_nil _
    · cases hnames
  · cases h

theorem readSources_again {sources : List SourceText}
    (hkeeps : KeepsOthers places directory d d') (hd : d.IsTree)
    (hplaces : ∀ root ∈ b.sourceRoots, ∀ l, d.target root.directory <:+ l → ¬ places l)
    (h : b.readSources d = .ok sources) : b.readSources d' = .ok sources := by
  obtain ⟨parts, hparts, hflatten⟩ := eq_ok_of_bind h
  refine bind_eq_ok.mpr ⟨parts, mapM_eq_ok_of_imp hparts fun root hroot part hpart => ?_, hflatten⟩
  obtain ⟨found, hfound, hpart⟩ := eq_ok_of_bind hpart
  have hagain := sourceNames_again hkeeps hd (hplaces root hroot) hfound
  refine bind_eq_ok.mpr ⟨found, hagain, mapM_eq_ok_of_imp hpart fun names hnames file hfile => ?_⟩
  obtain ⟨text, htext, hfile⟩ := eq_ok_of_bind hfile
  refine bind_eq_ok.mpr ⟨text, readText_again hkeeps htext (hplaces root hroot _ ?_), hfile⟩
  rw [d.target_foldl_join (isFileName_of_sourceNames hd hfound hnames)]
  exact List.suffix_append _ _

theorem Declares.again {wording : Wording} {texts : List AuxiliaryText} {declarations : Snapshot}
    (h : b.Declares d wording texts declarations) (hkeeps : KeepsOthers places directory d d')
    (hd : d.IsTree)
    (hplaces : ∀ root ∈ b.sourceRoots, ∀ l, d.target root.directory <:+ l → ¬ places l) :
    b.Declares d' wording texts declarations := by
  rcases h with ⟨hneeded, sources, hsources, hanalysis⟩ | hneeded
  · exact .inl ⟨hneeded, sources, readSources_again hkeeps hd hplaces hsources, hanalysis⟩
  · exact .inr hneeded

end Build

end ServiceStubs
