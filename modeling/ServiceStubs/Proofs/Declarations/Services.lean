import ServiceStubs.Proofs.Declarations.Callable
import ServiceStubs.Proofs.Declarations.Joining
import ServiceStubs.Proofs.Declarations.Sites
import ServiceStubs.Proofs.Extraction

/-!
# Services of source files

The public types of a module are its services.  What can be called on the first type of a name are
the functions of its inherent implementations, wherever in the files these stand; later types of
that name have no operations.  Classes and members are joined only once all files are read, so both
are traced back to the sites they come from.
-/

namespace ServiceStubs

namespace Rust

/-! ## What stands in a module -/

namespace Site

/-- The type at a site, if it is one of the module. -/
def type? (scope : String) (s : Site) : Option (String × Visibility) :=
  match s.entry with
  | .declared name visibility => if s.scope = scope then some (name, visibility) else none
  | .implBlock _ => none

/-- The functions at a site, if it is an inherent implementation of that name in the module. -/
def methods (scope name : String) (s : Site) : List Method :=
  match s.entry with
  | .declared _ _ => []
  | .implBlock block =>
    if s.scope = scope ∧ block.trait? = none ∧ block.selfType.EndsIn name then block.methods
    else []

end Site

/-- The service of a type in a module, given the types before it there.  Only the first type of a
name has operations. -/
def serviceAt (scope : String) (target : Option String) (sites : List Site)
    (earlier : List (String × Visibility)) (name : String) : Service where
  name := name
  sourceNamespace := scope
  targetNamespace := target.getD ""
  operations :=
    if name ∈ earlier.map Prod.fst then []
    else operationsOf name (sites.flatMap (Site.methods scope name))

/-- The services of a module: one for each type that is visible everywhere, in order. -/
def servicesAt (scope : String) (target : Option String) (sites : List Site) : List Service :=
  (withEarlier (sites.filterMap (Site.type? scope))).filterMap fun p =>
    if p.2.2 = .everywhere then some (serviceAt scope target sites p.1 p.2.1) else none

/-! ## From members to operations -/

/-- An implementation block gives operations to the types of its name in its module, if it is an
inherent one, and to no other types. -/
theorem memberOperations_findings (s : Site) (scope name : String) :
    memberOperations name (s.findings.flatMap (·.membersOf name scope)) =
      operationsOf name (s.methods scope name) := by
  obtain ⟨blockScope, entry⟩ := s
  cases entry with
  | declared typeName visibility => rfl
  | implBlock block =>
    simp only [Site.findings, Site.methods, ImplBlock.findings, ← Ty.lastName?_eq_some_iff]
    cases hlast : block.selfType.lastName? with
    | none =>
      rw [if_neg (by simp)]
      rfl
    | some last =>
      rw [List.flatMap_cons, List.flatMap_nil, List.append_nil, Finding.membersOf]
      by_cases hplace : last = name ∧ blockScope = scope
      · obtain ⟨rfl, rfl⟩ := hplace
        rw [if_pos ⟨rfl, rfl⟩]
        cases htrait : block.trait? with
        | none =>
          rw [if_pos ⟨rfl, rfl, rfl⟩]
          exact memberOperations_inherent last block.methods
        | some trait =>
          rw [if_neg (by simp)]
          exact memberOperations_trait last trait block.methods
      · have hother : ¬ (blockScope = scope ∧ block.trait? = none ∧ some last = some name) := by
          rintro ⟨hscope, -, hname⟩
          exact hplace ⟨Option.some.inj hname, hscope⟩
        rw [if_neg hplace, if_neg hother]
        rfl

theorem memberOperations_sites (sites : List Site) (scope name : String) :
    memberOperations name ((sites.flatMap Site.findings).flatMap (·.membersOf name scope)) =
      operationsOf name (sites.flatMap (Site.methods scope name)) := by
  induction sites with
  | nil => rfl
  | cons s sites ih =>
    rw [List.flatMap_cons, List.flatMap_cons, List.flatMap_append, memberOperations_append,
      operationsOf_append, memberOperations_findings, ih]

/-! ## From classes to services -/

/-- The class of a site, still without members. -/
def Site.class? (s : Site) : Option ClassDecl :=
  match s.entry with
  | .declared name visibility => some ⟨name, s.scope, visibility, []⟩
  | .implBlock _ => none

/-- A class as a type of the module. -/
def typeOf? (scope : String) (c : ClassDecl) : Option (String × Visibility) :=
  if c.scope = scope then some (c.name, c.visibility) else none

theorem Site.name_ne_of_class? {s : Site} {c : ClassDecl} (hs : s.entry.IsNamed)
    (hc : s.class? = some c) : c.name ≠ "" := by
  obtain ⟨scope, entry⟩ := s
  cases entry with
  | declared name visibility =>
    obtain rfl := Option.some.inj hc
    exact hs
  | implBlock block => cases hc

theorem filterMap_class?_findings (sites : List Site) :
    (sites.flatMap Site.findings).filterMap Finding.class? = sites.filterMap Site.class? := by
  induction sites with
  | nil => rfl
  | cons s sites ih =>
    obtain ⟨scope, entry⟩ := s
    rw [List.flatMap_cons, List.filterMap_append, ih]
    cases entry with
    | declared name visibility => rfl
    | implBlock block =>
      simp only [Site.findings, ImplBlock.findings]
      cases block.selfType.lastName? with
      | none => rfl
      | some last => rfl

theorem filterMap_type? (scope : String) (sites : List Site) :
    sites.filterMap (Site.type? scope) =
      (sites.filterMap Site.class?).filterMap (typeOf? scope) := by
  rw [List.filterMap_filterMap]
  apply List.filterMap_congr
  intro s _
  obtain ⟨siteScope, entry⟩ := s
  cases entry with
  | declared name visibility => rfl
  | implBlock block => rfl

/-- An earlier class has the key of a class of the module if it is an earlier type of its name. -/
theorem key_mem_iff {scope : String} {c : ClassDecl} (hscope : c.scope = scope)
    (earlier : List ClassDecl) :
    c.key ∈ earlier.map ClassDecl.key ↔
      c.name ∈ (earlier.filterMap (typeOf? scope)).map Prod.fst := by
  simp only [List.mem_map, List.mem_filterMap]
  constructor
  · rintro ⟨d, hd, hkey⟩
    obtain ⟨hname, hmodule⟩ := Prod.mk.inj hkey
    refine ⟨(d.name, d.visibility), ⟨d, hd, ?_⟩, hname⟩
    rw [typeOf?, if_pos (hmodule.trans hscope)]
  · rintro ⟨type, ⟨d, hd, htype⟩, hname⟩
    rw [typeOf?] at htype
    split_ifs at htype with hmodule
    obtain rfl := Option.some.inj htype
    exact ⟨d, hd, Prod.ext hname (hmodule.trans hscope.symm)⟩

theorem serviceOf_joined {scope : String} {c : ClassDecl} (hscope : c.scope = scope)
    (target : Option String) (sites : List Site) (earlier : List ClassDecl) :
    Extraction.serviceOf target
        (joined (sites.flatMap Site.findings) (earlier.map ClassDecl.key) c) =
      serviceAt scope target sites (earlier.filterMap (typeOf? scope)) c.name := by
  have hoperations : memberOperations c.name
        (joined (sites.flatMap Site.findings) (earlier.map ClassDecl.key) c).members =
      if c.name ∈ (earlier.filterMap (typeOf? scope)).map Prod.fst then [] else
        operationsOf c.name (sites.flatMap (Site.methods scope c.name)) := by
    simp only [joined, List.contains_iff_mem, key_mem_iff hscope]
    split_ifs
    · rfl
    · rw [hscope, memberOperations_sites]
  rw [serviceAt, ← hoperations, ← hscope]
  rfl

theorem isCandidate_joined_iff {scope : String} {findings : List Finding}
    {earlier : List (String × String)} {c : ClassDecl} :
    Extraction.isCandidate scope (joined findings earlier c) = true ↔
      c.scope = scope ∧ c.visibility = .everywhere := by
  simp [Extraction.isCandidate, joined]

/-- The candidates among joined classes, as services. -/
theorem services_joined (scope : String) (target : Option String) (sites : List Site) :
    (((withEarlier (sites.filterMap Site.class?)).map fun p =>
        joined (sites.flatMap Site.findings) (p.1.map ClassDecl.key) p.2).filter
          (Extraction.isCandidate scope)).map (Extraction.serviceOf target) =
      servicesAt scope target sites := by
  rw [servicesAt, filterMap_type?]
  generalize sites.filterMap Site.class? = classes
  rw [withEarlier_filterMap, List.filterMap_filterMap, ← List.filterMap_eq_map,
    ← List.filterMap_eq_filter, List.filterMap_map, List.filterMap_filterMap]
  apply List.filterMap_congr
  rintro ⟨earlier, c⟩ -
  rw [Function.comp_apply, Option.guard]
  by_cases hscope : c.scope = scope
  · rw [typeOf?, if_pos hscope]
    by_cases hvisibility : c.visibility = .everywhere
    · rw [if_pos (isCandidate_joined_iff.mpr ⟨hscope, hvisibility⟩)]
      simp [hvisibility, serviceOf_joined hscope]
    · rw [if_neg fun h => hvisibility (isCandidate_joined_iff.mp h).2]
      simp [hvisibility]
  · rw [typeOf?, if_neg hscope, if_neg fun h => hscope (isCandidate_joined_iff.mp h).1]
    rfl

end Rust

/-- Source files that can all be read have the services of the namespace in them, and no class is
left out for want of a name. -/
theorem extract_ofRust {files : List SourceText}
    (hread : ∀ f ∈ files, (Rust.items? f.text).isSome) (namespaceName : String)
    (target : Option String) :
    ∃ snapshot, Snapshot.ofRust files = .ok snapshot ∧
      Extraction.extract namespaceName target snapshot =
        pure (Rust.servicesAt namespaceName target (files.flatMap SourceText.sites)) := by
  have hclasses : (Rust.snapshotOf (files.map fun f =>
      (f.path, f.sites.flatMap Rust.Site.findings))).classes =
        (withEarlier ((files.flatMap SourceText.sites).filterMap Rust.Site.class?)).map fun p =>
          Rust.joined ((files.flatMap SourceText.sites).flatMap Rust.Site.findings)
            (p.1.map ClassDecl.key) p.2 := by
    rw [Rust.classes_snapshotOf, List.flatMap_map, ← Rust.filterMap_class?_findings,
      List.flatMap_assoc]
  refine ⟨_, Snapshot.ofRust_eq hread, ?_⟩
  rw [Extraction.extract, hclasses, Extraction.ofClasses_of_named, Rust.services_joined]
  intro c hc
  obtain ⟨p, hp, rfl⟩ := List.mem_map.mp hc
  obtain ⟨s, hs, hclass⟩ := List.mem_filterMap.mp (mem_of_mem_withEarlier hp)
  obtain ⟨f, -, hf⟩ := List.mem_flatMap.mp hs
  have hname : p.2.name ≠ "" :=
    Rust.Site.name_ne_of_class? (SourceText.isNamed_of_mem_sites hf) hclass
  exact hname

/-- Operations may stand in another file than their type; a second type of the name has none. -/
theorem extract_ofRust_secondType :
    let files : List SourceText :=
      [⟨"a.rs", "app", "impl A\x7bpub fn run(&self)\x7b\x7dpub fn new()->Box<A>\x7b\x7d\x7d"⟩,
       ⟨"b.rs", "", "mod app\x7bpub struct A;pub enum A\x7b\x7denum B\x7b\x7d\x7d"⟩]
    ∃ snapshot, Snapshot.ofRust files = .ok snapshot ∧
      Extraction.extract "app" (some "api") snapshot =
        pure [⟨"A", "app", "api", [⟨"run", "()", "This is run from A"⟩]⟩,
          ⟨"A", "app", "api", []⟩] := by
  intro files
  have hread : ∀ f ∈ files, (Rust.items? f.text).isSome := by decide +kernel
  have hservices : Rust.servicesAt "app" (some "api") (files.flatMap SourceText.sites) =
      [⟨"A", "app", "api", [⟨"run", "()", "This is run from A"⟩]⟩, ⟨"A", "app", "api", []⟩] := by
    decide +kernel
  obtain ⟨snapshot, hsnapshot, hextract⟩ := extract_ofRust hread "app" (some "api")
  rw [hservices] at hextract
  exact ⟨snapshot, hsnapshot, hextract⟩

end ServiceStubs
