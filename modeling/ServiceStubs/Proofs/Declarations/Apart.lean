import ServiceStubs.Proofs.Declarations.Joining
import ServiceStubs.Proofs.Declarations.Sites
import ServiceStubs.Proofs.Extraction
import ServiceStubs.Proofs.Result

/-!
# Modules apart

The classes of a module, and with them its services, come from what stands in that module.  Files
in which nothing stands there may come and go, whatever the names are that they declare elsewhere.
-/

namespace ServiceStubs

open ServiceStubs.Rust

/-! ## Findings of a module -/

namespace Rust

/-- The module that a finding is in. -/
def Finding.scope : Finding → String
  | declared _ scope _ => scope
  | members _ scope _ => scope

theorem Site.scope_of_mem_findings {s : Site} {f : Finding} (h : f ∈ s.findings) :
    f.scope = s.scope := by
  obtain ⟨scope, entry⟩ := s
  cases entry with
  | declared name visibility =>
    obtain rfl := List.mem_singleton.mp h
    rfl
  | implBlock block =>
    simp only [Site.findings, ImplBlock.findings] at h
    split at h
    · obtain rfl := List.mem_singleton.mp h
      rfl
    · cases h

/-- The findings of a module. -/
def findingsAt (scope : String) (findings : List Finding) : List Finding :=
  findings.filter (·.scope == scope)

theorem findingsAt_append (scope : String) (fs gs : List Finding) :
    findingsAt scope (fs ++ gs) = findingsAt scope fs ++ findingsAt scope gs :=
  List.filter_append _ _

theorem findingsAt_eq_nil {scope : String} {sites : List Site}
    (h : ∀ s ∈ sites, s.scope ≠ scope) : findingsAt scope (sites.flatMap Site.findings) = [] := by
  refine List.filter_eq_nil_iff.mpr fun f hf => ?_
  obtain ⟨s, hs, hmem⟩ := List.mem_flatMap.mp hf
  rw [beq_iff_eq, Site.scope_of_mem_findings hmem]
  exact h s hs

theorem filterMap_class?_findingsAt (scope : String) (findings : List Finding) :
    (findingsAt scope findings).filterMap Finding.class? =
      (findings.filterMap Finding.class?).filter (·.scope == scope) := by
  rw [findingsAt, List.filterMap_filter, List.filter_filterMap]
  refine List.filterMap_congr fun f _ => ?_
  cases f with
  | declared name s visibility => simp [Finding.class?, Finding.scope, Option.filter]
  | members name s ms => simp [Finding.class?]

theorem flatMap_membersOf_findingsAt (name scope : String) (findings : List Finding) :
    (findingsAt scope findings).flatMap (·.membersOf name scope) =
      findings.flatMap (·.membersOf name scope) := by
  refine flatMap_filter_eq (fun f _ helsewhere => ?_) fun _ _ _ => rfl
  cases f with
  | declared name' scope' visibility => rfl
  | members name' scope' ms => exact if_neg fun h => beq_eq_false_iff_ne.mp helsewhere h.2

/-! ## Classes of a module -/

/-- In a module, the classes elsewhere come before no class. -/
theorem joined_findingsAt {scope : String} {c : ClassDecl} (hc : c.scope = scope)
    (findings : List Finding) (earlier : List ClassDecl) :
    joined (findingsAt scope findings) ((earlier.filter (·.scope == scope)).map ClassDecl.key) c =
      joined findings (earlier.map ClassDecl.key) c := by
  subst hc
  have hkey : c.key ∈ (earlier.filter (·.scope == c.scope)).map ClassDecl.key ↔
      c.key ∈ earlier.map ClassDecl.key := by
    simp only [List.mem_map, List.mem_filter, beq_iff_eq]
    constructor
    · rintro ⟨d, ⟨hd, -⟩, hkey⟩
      exact ⟨d, hd, hkey⟩
    · rintro ⟨d, hd, hkey⟩
      exact ⟨d, ⟨hd, (Prod.mk.inj hkey).2⟩, hkey⟩
  simp only [joined, List.contains_iff_mem, hkey, flatMap_membersOf_findingsAt]

/-- The classes of a module are joined as if there were nothing elsewhere. -/
theorem filter_scope_classes (files : List (String × List Finding)) (scope : String) :
    (snapshotOf files).classes.filter (·.scope == scope) =
      (withEarlier ((findingsAt scope (files.flatMap Prod.snd)).filterMap Finding.class?)).map
        fun p =>
          joined (findingsAt scope (files.flatMap Prod.snd)) (p.1.map ClassDecl.key) p.2 := by
  rw [classes_snapshotOf, List.filter_map, filterMap_class?_findingsAt, withEarlier_filter,
    List.map_map]
  refine List.map_congr_left fun p hp => ?_
  have hscope : p.2.scope = scope := beq_iff_eq.mp (List.mem_filter.mp hp).2
  exact (joined_findingsAt hscope _ p.1).symm

end Rust

/-- A file in which nothing stands in the module of the services may be put anywhere among the
others: the services stay the same, and so do the notices. -/
theorem extract_unrelated {before after : List SourceText} {further : SourceText}
    (hread : ∀ f ∈ before ++ after, (items? f.text).isSome)
    (hfurther : (items? further.text).isSome)
    {namespaceName : String} (hsites : ∀ s ∈ further.sites, s.scope ≠ namespaceName)
    (target : Option String) :
    ∃ snapshot snapshot', Snapshot.ofRust (before ++ after) = .ok snapshot ∧
      Snapshot.ofRust (before ++ further :: after) = .ok snapshot' ∧
      Extraction.extract namespaceName target snapshot' =
        Extraction.extract namespaceName target snapshot := by
  have hread' : ∀ f ∈ before ++ further :: after, (items? f.text).isSome := by
    intro f hf
    rcases List.mem_append.mp hf with hbefore | hrest
    · exact hread f (List.mem_append_left _ hbefore)
    · rcases List.mem_cons.mp hrest with rfl | hafter
      · exact hfurther
      · exact hread f (List.mem_append_right _ hafter)
  refine ⟨_, _, Snapshot.ofRust_eq hread, Snapshot.ofRust_eq hread', ?_⟩
  rw [Extraction.extract, Extraction.extract, ← Extraction.ofClasses_filter_scope,
    ← Extraction.ofClasses_filter_scope namespaceName target (Snapshot.classes _)]
  simp only [filter_scope_classes, List.map_append, List.map_cons, List.flatMap_append,
    List.flatMap_cons, findingsAt_append, findingsAt_eq_nil hsites, List.nil_append]

/-- A file between a block and its type that declares the same names in other modules. -/
theorem extract_unrelated_sameNames :
    let blocks : SourceText := ⟨"a.rs", "app", "impl A\x7bpub fn run(&self)\x7b\x7d\x7d"⟩
    let further : SourceText := ⟨"b.rs", "lib",
      "impl A\x7bpub fn go(&self)\x7b\x7d\x7dpub enum A\x7b\x7dmod app\x7bpub struct A;\x7d"⟩
    let types : SourceText := ⟨"c.rs", "", "mod app\x7bpub struct A;\x7d"⟩
    (∀ f ∈ [blocks] ++ [types], (items? f.text).isSome) ∧ (items? further.text).isSome ∧
      (∀ s ∈ further.sites, s.scope ≠ "app") ∧
      ∃ snapshot snapshot', Snapshot.ofRust ([blocks] ++ [types]) = .ok snapshot ∧
        Snapshot.ofRust ([blocks] ++ further :: [types]) = .ok snapshot' ∧
        Extraction.extract "app" none snapshot' = Extraction.extract "app" none snapshot ∧
        (Extraction.extract "app" none snapshot).value =
          [⟨"A", "app", "", [⟨"run", "()", "This is run from A"⟩]⟩] := by
  intro blocks further types
  have hread : ∀ f ∈ [blocks] ++ [types], (items? f.text).isSome := by decide +kernel
  have hfurther : (items? further.text).isSome := by decide +kernel
  have hsites : ∀ s ∈ further.sites, s.scope ≠ "app" := by decide +kernel
  obtain ⟨snapshot, snapshot', hfiles, hfiles', hextract⟩ :=
    extract_unrelated hread hfurther hsites none
  refine ⟨hread, hfurther, hsites, snapshot, snapshot', hfiles, hfiles', hextract, ?_⟩
  have hservices : (Snapshot.ofRust ([blocks] ++ [types])).toOption.map
      (fun s => (Extraction.extract "app" none s).value) =
        some [⟨"A", "app", "", [⟨"run", "()", "This is run from A"⟩]⟩] := by decide +kernel
  rw [hfiles] at hservices
  exact Option.some.inj hservices

end ServiceStubs
