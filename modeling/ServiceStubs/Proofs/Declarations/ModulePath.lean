import ServiceStubs.Declarations.ModulePath
import ServiceStubs.Proofs.Path

/-!
# Module paths and places

A directory on the way to a file adds its name to the module path, wherever the way starts.  So the
module path of a file is the same whether a directory belongs to the way or to the start.
-/

namespace ServiceStubs.ModulePath

variable {base name : String} {directories names : List String}

/-- The module path of given directories below another module. -/
def below (base : String) (directories : List String) : String :=
  "::".intercalate (if base = "" then directories else base :: directories)

theorem below_nil (base : String) : below base [] = base := by
  by_cases hbase : base = ""
  · rw [below, if_pos hbase, hbase]
    rfl
  · rw [below, if_neg hbase, String.intercalate_singleton]

theorem extend_ne_empty (h : name ≠ "") : extend base name ≠ "" := by
  rw [extend]
  split
  · exact h
  · intro hempty
    rw [String.append_eq_empty_iff] at hempty
    exact h hempty.2

theorem below_cons (h : name ≠ "") :
    below base (name :: directories) = below (extend base name) directories := by
  rw [below, below, if_neg (extend_ne_empty h), extend]
  by_cases hbase : base = ""
  · rw [if_pos hbase, if_pos (String.isEmpty_iff.mpr hbase)]
  · rw [if_neg hbase, if_neg (mt String.isEmpty_iff.mp hbase), String.intercalate_cons_cons,
      String.intercalate_cons_append]

/-- Directories add their names one by one. -/
theorem foldl_extend (h : ∀ directory ∈ directories, directory ≠ "") :
    directories.foldl extend base = below base directories := by
  induction directories generalizing base with
  | nil => exact (below_nil base).symm
  | cons directory directories ih =>
    obtain ⟨hdirectory, hdirectories⟩ := List.forall_mem_cons.mp h
    rw [List.foldl_cons, ih hdirectories, below_cons hdirectory]

theorem segments_cons (directory : String) (h : names ≠ []) :
    segments (directory :: names) = directory :: segments names := by
  obtain ⟨name, rest, rfl⟩ := List.exists_cons_of_ne_nil h
  rfl

/-- Only the last name is that of the file. -/
theorem segments_append (directories : List String) (h : names ≠ []) :
    segments (directories ++ names) = directories ++ segments names := by
  induction directories with
  | nil => rfl
  | cons directory directories ih =>
    rw [List.cons_append, segments_cons directory (List.append_ne_nil_of_right_ne_nil _ h), ih]
    rfl

theorem ofPath_join {directory path : Path.Octets} (hrelative : path.head? ≠ some Path.Octets.slash)
    (hnames : path.names ≠ []) :
    ofPath base (directory.join path) = ofPath (below base directory.names) path := by
  rw [ofPath, ofPath, Path.Octets.names_join hrelative, segments_append _ hnames,
    List.foldl_append, foldl_extend fun name => Path.Octets.ne_empty_of_mem_names]

/-- Where nothing is text behind the directory, the directory itself is what the path ends in. -/
theorem ofPath_join_of_names_eq_nil {directory path : Path.Octets}
    (hrelative : path.head? ≠ some Path.Octets.slash) (hnames : path.names = []) :
    ofPath base (directory.join path) = ofPath base directory := by
  rw [ofPath, ofPath, Path.Octets.names_join hrelative, hnames, List.append_nil]

/-- A file that stands for its directory adds nothing to the module path of the directory. -/
theorem ofPath_join_directoryFile {file : String} (h : file ∈ ["lib.rs", "main.rs", "mod.rs"])
    (directory : Path.Octets) :
    ofPath base (directory.join (.ofText file)) = below base directory.names := by
  have hfile : (Path.Octets.ofText file).head? ≠ some Path.Octets.slash ∧
      (Path.Octets.ofText file).names ≠ [] ∧
      segments (Path.Octets.ofText file).names = [] := by
    revert file
    decide
  obtain ⟨hrelative, hnames, hsegments⟩ := hfile
  rw [ofPath_join hrelative hnames, ofPath, hsegments]
  rfl

/-- The directory that the way to a file starts with may as well belong to the start. -/
theorem ofFile_cons {directory : String} {names : List String} (hne : names ≠ [])
    (h : ∀ name ∈ directory :: names, Disk.IsFileName name) :
    ofFile base ("/".intercalate (directory :: names)) =
      ofFile (extend base directory) ("/".intercalate names) := by
  rw [ofFile, ofFile, ofPath, ofPath, Path.Octets.names_intercalate_of_isFileName h,
    Path.Octets.names_intercalate_of_isFileName (List.forall_mem_cons.mp h).2,
    segments_cons _ hne]
  rfl

end ServiceStubs.ModulePath
