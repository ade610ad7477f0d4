import Mathlib.Data.List.Basic
import ServiceStubs.Declarations.OfRust
import ServiceStubs.Proofs.Rust.Names

/-!
# Where items stand

Types and implementation blocks stand in modules, and these may stand in others.  Going through the
files in their order, and through each from top to bottom, gives every such item with the path of
its module.  Nothing else about the files decides what they contribute.
-/

namespace ServiceStubs

open ServiceStubs.Rust

namespace Rust

/-! ## Items within items -/

/-- A structure or an enumeration, or an implementation block. -/
inductive Entry where
  | declared (name : String) (visibility : Visibility)
  | implBlock (block : ImplBlock)

/-- An entry of a file, with the names of the inline modules around it, outermost first. -/
structure Nested where
  modules : List String
  entry : Entry

/-- The entry in one more module. -/
def Nested.within (name : String) (n : Nested) : Nested := ⟨name :: n.modules, n.entry⟩

mutual

/-- The entries within an item, in the order of the text. -/
def Item.entries : Item → List Nested
  | .declared name visibility => [⟨[], .declared name visibility⟩]
  | .implBlock block => [⟨[], .implBlock block⟩]
  | .inlineModule name items => (Item.allEntries items).map (Nested.within name)
  | .other => []

/-- The entries within items, in the order of the text. -/
def Item.allEntries : List Item → List Nested
  | [] => []
  | i :: is => i.entries ++ Item.allEntries is

end

theorem Item.mem_allEntries {items : List Item} {n : Nested} :
    n ∈ Item.allEntries items ↔ ∃ i ∈ items, n ∈ i.entries := by
  induction items with
  | nil => simp [Item.allEntries]
  | cons i items ih => simp [Item.allEntries, ih]

/-- A type has a name. -/
def Entry.IsNamed : Entry → Prop
  | .declared name _ => name ≠ ""
  | .implBlock _ => True

theorem Item.IsNamed.entries {i : Item} (h : i.IsNamed) : ∀ n ∈ i.entries, n.entry.IsNamed := by
  induction h with
  | declared hname =>
    intro n hn
    obtain rfl := List.mem_singleton.mp hn
    exact hname
  | implBlock block =>
    intro n hn
    obtain rfl := List.mem_singleton.mp hn
    exact True.intro
  | inlineModule _ ih =>
    intro n hn
    rw [Item.entries] at hn
    obtain ⟨m, hm, rfl⟩ := List.mem_map.mp hn
    obtain ⟨i, hi, hentry⟩ := Item.mem_allEntries.mp hm
    exact ih i hi m hentry
  | other => exact List.forall_mem_nil _

/-! ## Paths of modules -/

/-- An entry and the path of the module it stands in. -/
structure Site where
  scope : String
  entry : Entry

/-- The site of an entry in a file at a module path. -/
def Nested.site (base : String) (n : Nested) : Site :=
  ⟨n.modules.foldl ModulePath.extend base, n.entry⟩

/-- What an entry contributes at its site. -/
def Site.findings (s : Site) : List Finding :=
  match s.entry with
  | .declared name visibility => [.declared name s.scope visibility]
  | .implBlock block => block.findings s.scope

mutual

/-- An item contributes what its entries do. -/
theorem Item.findings_eq (scope : String) :
    ∀ i : Item, i.findings scope = (i.entries.map (Nested.site scope)).flatMap Site.findings
  | .declared name visibility => rfl
  | .implBlock block => (List.append_nil _).symm
  | .inlineModule name items => by
    rw [Item.findings, Item.entries, Item.allFindings_eq, List.map_map]
    rfl
  | .other => rfl

theorem Item.allFindings_eq (scope : String) : ∀ items : List Item,
    Item.allFindings scope items =
      ((Item.allEntries items).map (Nested.site scope)).flatMap Site.findings
  | [] => rfl
  | i :: is => by
    rw [Item.allFindings, Item.allEntries, Item.findings_eq, Item.allFindings_eq, List.map_append,
      List.flatMap_append]

end

end Rust

namespace SourceText

/-- The sites of a file that can be read. -/
def sites (f : SourceText) : List Site :=
  (Item.allEntries ((items? f.text).getD [])).map (Nested.site f.scope)

theorem findingsOf_eq {f : SourceText} (h : (items? f.text).isSome) :
    findingsOf f = .ok (f.path, f.sites.flatMap Site.findings) := by
  obtain ⟨items, hitems⟩ := Option.isSome_iff_exists.mp h
  rw [findingsOf, sites, hitems, Option.getD_some, ← Item.allFindings_eq]

theorem isNamed_of_mem_sites {f : SourceText} {s : Site} (hs : s ∈ f.sites) :
    s.entry.IsNamed := by
  obtain ⟨n, hn, rfl⟩ := List.mem_map.mp hs
  obtain ⟨i, hi, hentry⟩ := Item.mem_allEntries.mp hn
  cases hitems : items? f.text with
  | none =>
    rw [hitems] at hi
    cases hi
  | some items =>
    rw [hitems] at hi
    exact (isNamed_of_items? hitems i hi).entries n hentry

end SourceText

/-- Files that can all be read contribute what their sites do. -/
theorem Snapshot.ofRust_eq {files : List SourceText} (h : ∀ f ∈ files, (items? f.text).isSome) :
    Snapshot.ofRust files =
      .ok (snapshotOf (files.map fun f => (f.path, f.sites.flatMap Site.findings))) := by
  have hfindings : files.mapM findingsOf =
      .ok (files.map fun f => (f.path, f.sites.flatMap Site.findings)) := by
    induction files with
    | nil => rfl
    | cons f files ih =>
      obtain ⟨hf, hfiles⟩ := List.forall_mem_cons.mp h
      rw [List.mapM_cons, SourceText.findingsOf_eq hf, ih hfiles]
      rfl
  rw [Snapshot.ofRust, hfindings]
  rfl

end ServiceStubs
