import ServiceStubs.Proofs.Build.Rebuilding
import ServiceStubs.Proofs.Declarations.ModulePath

/-!
# Roots of sources

A directory of sources may be given as a root of its own, or be left to the root that it lies in.
The files below it are found in the same order either way, and each of them gets the same module
path.
-/

namespace ServiceStubs

open ServiceStubs.Disk (IsFileName)

/-- A directory in a root, as a root with a module path of its own. -/
def SourceRoot.child (root : SourceRoot) (name : String) : SourceRoot :=
  ⟨Path.join root.directory name, ModulePath.extend root.scope name⟩

namespace Build

variable {d : Disk} {root : SourceRoot} {name : String} {names : List String}
variable {found below : List (List String)}

/-- The names lead to a source file. -/
def leadsToSource (names : List String) : Bool := (names.getLast?.map isSource).getD false

theorem leadsToSource_cons (name : String) (h : names ≠ []) :
    leadsToSource (name :: names) = leadsToSource names := by
  rw [leadsToSource, List.getLast?_cons_of_ne_nil h]
  rfl

theorem sourceNames_of_find {l : Disk.Location} (h : d.find root.directory = .ok (l, .directory)) :
    sourceNames d root = .ok (((d.files l).map Prod.fst).filter leadsToSource) := by
  rw [sourceNames, h]
  rfl

/-- A root whose sources are found has the directory in it. -/
theorem find_of_child {l : Disk.Location} (hname : IsFileName name)
    (h : d.find (root.child name).directory = .ok (l, .directory))
    (hfound : sourceNames d root = .ok found) :
    ∃ m, l = name :: m ∧ (name :: m, .directory) ∈ d.entries ∧
      d.find root.directory = .ok (m, .directory) := by
  have hrelative := hname.isAbsolute_eq_false
  obtain ⟨-, hfollow, hentry, -⟩ := Disk.find_eq_ok.mp h
  have hstart : d.start (root.child name).directory = d.start root.directory := by
    rw [Disk.start, Disk.start, SourceRoot.child, Disk.isAbsolute_join hrelative]
  rw [hstart, SourceRoot.child, Disk.steps_join hrelative, hname.steps_eq,
    Disk.follow_concat_eq_ok] at hfollow
  obtain ⟨m, hfollow, hdirectory, rfl⟩ := hfollow
  have hempty : root.directory.isEmpty = false := by
    refine Bool.eq_false_iff.mpr fun hempty => ?_
    rw [sourceNames, Disk.find, if_pos hempty] at hfound
    cases hfound
  exact ⟨m, rfl, Disk.mem_of_entry?_eq hentry,
    Disk.find_eq_ok.mpr ⟨hempty, hfollow, hdirectory, fun _ => rfl⟩⟩

/-- The sources that are found in the directory are those found in the root under its name, in the
same order. -/
theorem sourceNames_child (hd : d.IsTree) {l : Disk.Location} (hname : IsFileName name)
    (h : d.find (root.child name).directory = .ok (l, .directory))
    (hfound : sourceNames d root = .ok found) :
    ∃ below, sourceNames d (root.child name) = .ok below ∧ (∀ names ∈ below, names ≠ []) ∧
      found.filter (·.head? = some name) = below.map (name :: ·) := by
  obtain ⟨m, rfl, hmem, hroot⟩ := find_of_child hname h hfound
  rw [sourceNames_of_find hroot] at hfound
  obtain rfl := Except.ok.inj hfound
  refine ⟨_, sourceNames_of_find h, ?_, ?_⟩
  · intro names hnames
    obtain ⟨file, hfile, rfl⟩ := List.mem_map.mp (List.mem_filter.mp hnames).1
    exact Disk.ne_nil_of_mem_files hfile
  · calc (((d.files m).map Prod.fst).filter leadsToSource).filter (·.head? = some name)
        = (((d.files m).filter (·.1.head? = some name)).map Prod.fst).filter leadsToSource := by
          rw [List.filter_comm, List.filter_map]
          rfl
      _ = ((d.files (name :: m)).map fun file => name :: file.1).filter leadsToSource := by
          rw [hd.filter_files hmem, List.map_map]
          rfl
      _ = ((d.files (name :: m)).filter fun file => leadsToSource file.1).map
            fun file => name :: file.1 := by
          rw [List.filter_map]
          congr 1
          exact List.filter_congr fun file hfile =>
            leadsToSource_cons name (Disk.ne_nil_of_mem_files hfile)
      _ = (((d.files (name :: m)).map Prod.fst).filter leadsToSource).map (name :: ·) := by
          rw [List.filter_map, List.map_map]
          rfl

theorem readSource_child (hne : names ≠ []) (h : ∀ file ∈ name :: names, IsFileName file) :
    readSource d (root.child name) names = readSource d root (name :: names) := by
  rw [readSource, readSource, SourceRoot.child, ModulePath.ofFile_cons hne h, List.foldl_cons]

end Build

/-- The module path of a file does not depend on where the directories on the way to it start.  They
may be put into the path or into the base, where each adds its name; a file that stands for its
directory adds nothing, and neither do empty pieces, dots, double dots and names that are no text.
Only where no name in the path is text, the directory itself is taken for the file.  So a directory
in a root can be a root of its own, with its module path: the sources in it are found in the same
order, and read with the same paths, module paths and texts. -/
theorem modulePath_of_placement (base : String) :
    (∀ directory path : Path.Octets, path.head? ≠ some Path.Octets.slash → path.names ≠ [] →
      ModulePath.ofPath base (directory.join path) =
        ModulePath.ofPath (ModulePath.below base directory.names) path) ∧
    (∀ directory path : Path.Octets, path.head? ≠ some Path.Octets.slash → path.names = [] →
      ModulePath.ofPath base (directory.join path) = ModulePath.ofPath base directory) ∧
    (∀ directory : Path.Octets, ∀ file ∈ ["lib.rs", "main.rs", "mod.rs"],
      ModulePath.ofPath base (directory.join (.ofText file)) =
        ModulePath.below base directory.names) ∧
    (∀ pieces : List Path.Octets, (∀ piece ∈ pieces, Path.Octets.slash ∉ piece) →
      ModulePath.ofPath base ([Path.Octets.slash].intercalate pieces) =
        ModulePath.ofPath base ([Path.Octets.slash].intercalate (pieces.filter fun piece =>
          piece ∉ [[], [Path.Octets.dot], [Path.Octets.dot, Path.Octets.dot]] ∧
            piece.toByteArray.IsValidUTF8))) ∧
    ∀ (d : Disk) directory name l found, d.IsTree → IsFileName name →
      let root : SourceRoot := ⟨directory, base⟩
      d.find (root.child name).directory = .ok (l, .directory) →
      Build.sourceNames d root = .ok found →
      ∃ below, Build.sourceNames d (root.child name) = .ok below ∧
        found.filter (·.head? = some name) = below.map (name :: ·) ∧
        ∀ names ∈ below, Build.readSource d (root.child name) names =
          Build.readSource d root (name :: names) := by
  refine ⟨fun _ _ => ModulePath.ofPath_join, fun _ _ => ModulePath.ofPath_join_of_names_eq_nil,
    ?_, ?_, ?_⟩
  · intro directory file hfile
    exact ModulePath.ofPath_join_directoryFile hfile directory
  · intro pieces hpieces
    rw [ModulePath.ofPath, ModulePath.ofPath, Path.Octets.names_intercalate_filter hpieces]
  · intro d directory name l found hd hname root hchild hfound
    obtain ⟨below, hbelow, hne, hfilter⟩ := Build.sourceNames_child hd hname hchild hfound
    refine ⟨below, hbelow, hfilter, fun names hnames => ?_⟩
    exact Build.readSource_child (hne names hnames)
      (List.forall_mem_cons.mpr ⟨hname, Build.isFileName_of_sourceNames hd hbelow hnames⟩)

/-- A way with all that adds nothing, and a directory with a file that stands for it. -/
theorem modulePath_of_placement_orders :
    let root : SourceRoot := ⟨"src", "acme"⟩
    let d : Disk :=
      ⟨[(["work"], .directory), (["src", "work"], .directory),
        (["orders", "src", "work"], .directory),
        (["mod.rs", "orders", "src", "work"], .file (.text "pub struct Orders;"))], ["work"]⟩
    let path : Path.Octets := .ofText "../orders/./mod.rs"
    ModulePath.ofPath "acme" (.join (.ofText "./app//http") path) =
        ModulePath.ofPath "acme::app::http" path ∧
      ModulePath.ofFile "acme" "app/http/orders/mod.rs" = "acme::app::http::orders" ∧
      d.IsTree ∧ Build.sourceNames d (root.child "orders") = .ok [["mod.rs"]] ∧
      Build.readSource d root ["orders", "mod.rs"] =
        .ok ⟨"src/orders/mod.rs", "acme::orders", "pub struct Orders;"⟩ := by
  intro root d path
  have hd : d.IsTree := by
    refine ⟨by decide, ?_⟩
    simp only [d, List.forall_mem_cons]
    exact ⟨⟨_, _, rfl, ⟨by decide, by decide⟩, rfl⟩, ⟨_, _, rfl, ⟨by decide, by decide⟩, rfl⟩,
      ⟨_, _, rfl, ⟨by decide, by decide⟩, rfl⟩, ⟨_, _, rfl, ⟨by decide, by decide⟩, rfl⟩,
      List.forall_mem_nil _⟩
  have hfound : Build.sourceNames d root = .ok [["orders", "mod.rs"]] := by
    decide +kernel
  have hsources : Build.sourceNames d (root.child "orders") = .ok [["mod.rs"]] := by
    decide +kernel
  obtain ⟨hjoin, -, -, -, hroot⟩ := modulePath_of_placement "acme"
  obtain ⟨below, hbelow, -, hread⟩ := hroot d "src" "orders" ["orders", "src", "work"] _ hd
    ⟨by decide, by decide⟩ (by decide +kernel) hfound
  obtain rfl := Except.ok.inj (hsources.symm.trans hbelow)
  refine ⟨hjoin (.ofText "./app//http") path (by decide) (by decide), by decide, hd, hsources, ?_⟩
  rw [← hread ["mod.rs"] (by decide)]
  decide +kernel

/-- Where the only name in a path is no text, the directory in front of it goes unheard, and the
module path of the file depends on where the directory is put. -/
theorem modulePath_of_placement_unread :
    let directory : Path.Octets := .ofText "mod"
    let path : Path.Octets := 255 :: Path.Octets.ofText ".rs"
    path.head? ≠ some Path.Octets.slash ∧ Path.Octets.slash ∉ path ∧
      path ∉ [[], [Path.Octets.dot], [Path.Octets.dot, Path.Octets.dot]] ∧
      ModulePath.ofPath "acme" (directory.join path) = "acme" ∧
      ModulePath.ofPath (ModulePath.below "acme" directory.names) path = "acme::mod" := by
  decide

end ServiceStubs
