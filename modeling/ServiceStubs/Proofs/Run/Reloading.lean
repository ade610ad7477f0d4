import ServiceStubs.Proofs.Extraction
import ServiceStubs.Proofs.Schema

/-!
# Extracted models as schemas

Extraction leaves out a class that has no name, while a schema refuses every name that shows
nothing.  So the model of a program can be loaded again exactly if the names that extraction lets
through show something: one blank name of a class or of an operation makes the whole model
unreadable.
-/

namespace ServiceStubs

/-- The names that a class brings into a model show something: its own, and those of the members
that become operations. -/
structure ClassDecl.IsNamed (c : ClassDecl) : Prop where
  name : Text.IsVisible c.name
  members : ∀ m ∈ c.members, Extraction.isOperation m = true → Text.IsVisible m.name

instance (c : ClassDecl) : Decidable c.IsNamed :=
  decidable_of_iff (Text.IsVisible c.name ∧
      ∀ m ∈ c.members, Extraction.isOperation m = true → Text.IsVisible m.name)
    ⟨fun h => ⟨h.1, h.2⟩, fun h => ⟨h.name, h.members⟩⟩

namespace Extraction

variable {namespaceName : String} {target : Option String} {snapshot : Snapshot}

theorem isNamed_serviceOf_iff {c : ClassDecl} : (serviceOf target c).IsNamed ↔ c.IsNamed := by
  constructor
  · rintro ⟨hname, hoperations⟩
    refine ⟨hname, fun m hm hoperation => ?_⟩
    exact hoperations _ (List.mem_map_of_mem (List.mem_filter.mpr ⟨hm, hoperation⟩))
  · rintro ⟨hname, hmembers⟩
    refine ⟨hname, fun o ho => ?_⟩
    obtain ⟨m, hm, rfl⟩ := List.mem_map.mp ho
    obtain ⟨hmem, hoperation⟩ := List.mem_filter.mp hm
    exact hmembers m hmem hoperation

/-- All names in a model show something if those do that come with the classes it is made of. -/
theorem forall_isNamed_extract_iff :
    (∀ s ∈ (extract namespaceName target snapshot).value, s.IsNamed) ↔
      ∀ c ∈ snapshot.classes, isCandidate namespaceName c = true → c.name ≠ "" → c.IsNamed := by
  rw [extract, value_ofClasses, List.forall_mem_map]
  simp only [isNamed_serviceOf_iff, List.mem_filter, Bool.and_eq_true, Bool.not_eq_true',
    String.isEmpty_eq_false_iff, and_imp]

end Extraction

/-- Let services be extracted from a snapshot and their model be loaded from a path that is not one
of YAML.  The same services are loaded if the names of all public classes with a name in the
namespace show something, together with the names of their operations; otherwise the model is
refused. -/
theorem parse_modelText_extract {path : String} (hyaml : ¬ ".yaml".toList <:+ path.toList)
    (hyml : ¬ ".yml".toList <:+ path.toList) (namespaceName : String) (target : Option String)
    (snapshot : Snapshot) :
    let services := (Extraction.extract namespaceName target snapshot).value
    (Schema.parse path (Service.modelText services) = .ok services ↔
      ∀ c ∈ snapshot.classes, Extraction.isCandidate namespaceName c = true → c.name ≠ "" →
        c.IsNamed) ∧
    ((∃ reason, Schema.parse path (Service.modelText services) =
        .error (.schemaMalformed path reason)) ↔
      ∃ c ∈ snapshot.classes, Extraction.isCandidate namespaceName c = true ∧ c.name ≠ "" ∧
        ¬ c.IsNamed) := by
  intro services
  have hpath := Schema.isYaml_eq_false hyaml hyml
  have hall : (∀ s ∈ services, s.IsNamed) ↔ _ := Extraction.forall_isNamed_extract_iff
  have hnamed : (∃ c ∈ snapshot.classes, Extraction.isCandidate namespaceName c = true ∧
      c.name ≠ "" ∧ ¬ c.IsNamed) ↔ ¬ ∀ s ∈ services, s.IsNamed := by
    rw [hall]
    simp only [not_forall, exists_prop]
  rw [hnamed, ← hall]
  by_cases h : ∀ s ∈ services, s.IsNamed
  · have hparse := Schema.parse_modelText_of_isNamed hpath h
    refine ⟨iff_of_true hparse h, iff_of_false ?_ (not_not_intro h)⟩
    rintro ⟨reason, hreason⟩
    rw [hparse] at hreason
    cases hreason
  · obtain ⟨reason, hparse⟩ := Schema.parse_modelText_of_not_isNamed hpath h
    refine ⟨iff_of_false ?_ h, iff_of_true ⟨reason, hparse⟩ h⟩
    intro hok
    rw [hparse] at hok
    cases hok

/-- Names of odd characters that all show something.  Blank names do no harm in a member that is
hidden, in a class that is hidden, or in another namespace. -/
theorem parse_modelText_extract_odd :
    let members : List Member :=
      [⟨"\"\u00a0\\", .ordinary, .everywhere, "\x00"⟩, ⟨"\t", .ordinary, .hidden, ""⟩]
    let snapshot : Snapshot := ⟨[⟨"a.rs", [⟨"\u200b", "acme", .everywhere, members⟩,
      ⟨" ", "acme", .hidden, []⟩, ⟨"", "acme", .everywhere, []⟩, ⟨" ", "b", .everywhere, []⟩]⟩]⟩
    let services := (Extraction.extract "acme" (some "api") snapshot).value
    services.length = 1 ∧
      Schema.parse "model.json" (Service.modelText services) = .ok services := by
  intro members snapshot services
  refine ⟨rfl, ?_⟩
  exact (parse_modelText_extract (by decide) (by decide) "acme" (some "api") snapshot).1.mpr
    (by decide)

/-- A class whose name is a blank is let through, and the model is refused for it. -/
theorem parse_modelText_extract_blank :
    let snapshot : Snapshot := ⟨[⟨"a.rs", [⟨" ", "acme", .everywhere, []⟩]⟩]⟩
    let services := (Extraction.extract "acme" none snapshot).value
    services = [⟨" ", "acme", "", []⟩] ∧
      Schema.parse "model.json" (Service.modelText services) ≠ .ok services ∧
      Schema.parse "model.json" (Service.modelText services) =
        .error (.schemaMalformed "model.json" "service at index 0 has an empty Name") := by
  decide +kernel

end ServiceStubs
