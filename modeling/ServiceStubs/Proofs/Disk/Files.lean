import Mathlib.Data.List.Sort
import ServiceStubs.Proofs.Disk.Writing

/-!
# The files below a directory

On the disk of a file system each place has one entry, and it stands in a directory.  There the
files below a directory are a matter of the entries below it only: the depth that is looked at
suffices, and what a directory without files adds is nothing.
-/

namespace ServiceStubs.Disk

variable {d d' : Disk} {l m parent : Location} {name : String} {e : Entry} {n n' : Nat}

/-! ## Trees -/

/-- The disk of a file system: no place has two entries, and each has the name of a file in a
directory. -/
structure IsTree (d : Disk) : Prop where
  unique : d.IsUnique
  stands : ∀ entry ∈ d.entries, ∃ name parent, entry.1 = name :: parent ∧ IsFileName name ∧
    d.entry? parent = some .directory

theorem mem_of_entry?_eq (h : d.entry? (name :: parent) = some e) :
    (name :: parent, e) ∈ d.entries := by
  obtain ⟨before, after, hentries, -⟩ := List.lookup_eq_some_iff.mp h
  rw [hentries]
  exact List.mem_append_right before List.mem_cons_self

theorem IsUnique.entry?_of_mem (h : d.IsUnique) (hmem : (name :: parent, e) ∈ d.entries) :
    d.entry? (name :: parent) = some e := by
  obtain ⟨before, after, hentries⟩ := List.append_of_mem hmem
  rw [IsUnique, hentries, List.map_append, List.map_cons] at h
  refine List.lookup_eq_some_iff.mpr ⟨before, after, hentries, fun other hother => ?_⟩
  have hne := (List.nodup_append.mp h).2.2 _ (List.mem_map_of_mem hother) _ List.mem_cons_self
  exact bne_iff_ne.mpr hne.symm

theorem IsTree.isFileName (h : d.IsTree) (hmem : (name :: parent, e) ∈ d.entries) :
    IsFileName name := by
  obtain ⟨_, _, heq, hname, -⟩ := h.stands _ hmem
  obtain ⟨rfl, rfl⟩ := List.cons.inj heq
  exact hname

/-- Above an entry there are directories. -/
theorem IsTree.directory_of_suffix (h : d.IsTree) {above : Location}
    (hmem : (name :: (above ++ parent), e) ∈ d.entries) :
    d.entry? parent = some .directory := by
  induction above generalizing name e with
  | nil =>
    obtain ⟨_, _, heq, -, hparent⟩ := h.stands _ hmem
    obtain ⟨rfl, rfl⟩ := List.cons.inj heq
    exact hparent
  | cons first above ih =>
    obtain ⟨_, _, heq, -, hparent⟩ := h.stands _ hmem
    obtain ⟨rfl, rfl⟩ := List.cons.inj heq
    exact ih (mem_of_entry?_eq hparent)

/-! ## Names in a directory -/

theorem mem_children : (name, e) ∈ d.children l ↔ (name :: l, e) ∈ d.entries := by
  rw [children, List.mem_mergeSort, List.mem_filterMap]
  constructor
  · rintro ⟨⟨_ | ⟨first, rest⟩, entry⟩, hmem, heq⟩
    · cases heq
    · dsimp only at heq
      split at heq
      · next hrest =>
        obtain ⟨rfl, rfl⟩ := Prod.mk.inj (Option.some.inj heq)
        rwa [← hrest]
      · cases heq
  · exact fun hmem => ⟨_, hmem, if_pos rfl⟩

theorem pairwise_children (d : Disk) (l : Location) :
    (d.children l).Pairwise fun a b => a.1 ≤ b.1 := by
  refine (List.pairwise_mergeSort ?_ ?_ _).imp of_decide_eq_true
  · intro a b c hab hbc
    exact decide_eq_true (String.le_trans (of_decide_eq_true hab) (of_decide_eq_true hbc))
  · intro a b
    rw [Bool.or_eq_true, decide_eq_true_iff, decide_eq_true_iff]
    exact String.le_total a.1 b.1

theorem IsUnique.nodup_children (h : d.IsUnique) (l : Location) : (d.children l).Nodup := by
  refine (List.mergeSort_perm _ _).nodup_iff.mpr (List.Nodup.filterMap ?_ (List.Nodup.of_map _ h))
  rintro ⟨_ | ⟨name, parent⟩, e⟩ ⟨_ | ⟨name', parent'⟩, e'⟩ child hchild hchild'
  · cases hchild
  · cases hchild
  · cases hchild'
  · obtain ⟨hparent, heq⟩ := Option.ite_none_right_eq_some.mp hchild
    obtain ⟨hparent', heq'⟩ := Option.ite_none_right_eq_some.mp hchild'
    obtain ⟨rfl, rfl⟩ := Prod.mk.inj (Option.some.inj (heq.trans heq'.symm))
    rw [hparent, hparent']

/-- The names that stay are in the same order. -/
theorem children_eq_filter (hd : d.IsUnique) (hd' : d'.IsUnique)
    (hkept : ∀ name e, (name :: l, e) ∈ d.entries → (name :: l, e) ∈ d'.entries) :
    d.children l = (d'.children l).filter fun child => (child.1 :: l, child.2) ∈ d.entries := by
  have hmem : ∀ child : String × Entry, child ∈ d.children l ↔ child ∈ (d'.children l).filter
      fun child => (child.1 :: l, child.2) ∈ d.entries := by
    rintro ⟨name, e⟩
    rw [List.mem_filter, mem_children, mem_children, decide_eq_true_iff]
    exact ⟨fun h => ⟨hkept name e h, h⟩, And.right⟩
  refine List.Perm.eq_of_pairwise ?_ (pairwise_children d l)
    ((pairwise_children d' l).filter _) ((List.perm_ext_iff_of_nodup (hd.nodup_children l)
      ((hd'.nodup_children l).filter _)).mpr hmem)
  rintro ⟨name, e⟩ ⟨name', e'⟩ hchild hchild' hle hle'
  obtain rfl := String.le_antisymm hle hle'
  have he := hd.entry?_of_mem (mem_children.mp hchild)
  have he' := hd.entry?_of_mem (mem_children.mp ((hmem _).mpr hchild'))
  rw [he, Option.some.injEq] at he'
  rw [he']

/-! ## Files -/

/-- The entries below a place. -/
def below (d : Disk) (l : Location) : List (Location × Entry) :=
  d.entries.filter fun entry => l <:+ entry.1.tail

theorem mem_below : (name :: parent, e) ∈ d.below l ↔
    (name :: parent, e) ∈ d.entries ∧ l <:+ parent := by
  rw [below, List.mem_filter, decide_eq_true_iff]
  rfl

/-- There is less below what is in a directory than below the directory. -/
theorem length_below_lt (hmem : (name :: l, e) ∈ d.entries) :
    (d.below (name :: l)).length < (d.below l).length := by
  have hsublist : (d.below (name :: l)).Sublist (d.below l) :=
    List.monotone_filter_right _ fun entry hentry =>
      decide_eq_true ((List.suffix_cons name l).trans (of_decide_eq_true hentry))
  rcases Nat.lt_or_ge (d.below (name :: l)).length (d.below l).length with hlt | hge
  · exact hlt
  · have hself : (name :: l, e) ∈ d.below l := mem_below.mpr ⟨hmem, List.suffix_refl l⟩
    rw [← hsublist.eq_of_length_le hge, mem_below] at hself
    exact absurd hself.2.length_le (by simp)

/-- Every file is given by names of files. -/
theorem IsTree.isFileName_of_mem_filesBelow (h : d.IsTree) {names : List String} {c : Content}
    (hmem : (names, c) ∈ d.filesBelow n l) : ∀ name ∈ names, IsFileName name := by
  induction n generalizing l names with
  | zero => cases hmem
  | succ n ih =>
    rw [filesBelow, List.mem_flatMap] at hmem
    obtain ⟨⟨name, e⟩, hchild, hmem⟩ := hmem
    have hname := h.isFileName (mem_children.mp hchild)
    cases e with
    | file content =>
      obtain ⟨rfl, rfl⟩ := Prod.mk.inj (List.mem_singleton.mp hmem)
      exact List.forall_mem_singleton.mpr hname
    | directory =>
      obtain ⟨⟨rest, content⟩, hrest, heq⟩ := List.mem_map.mp hmem
      obtain ⟨rfl, rfl⟩ := Prod.mk.inj heq
      exact List.forall_mem_cons.mpr ⟨hname, ih hrest⟩

theorem filesBelow_eq_nil
    (h : ∀ name parent c, l <:+ parent → (name :: parent, .file c) ∉ d.entries) :
    d.filesBelow n l = [] := by
  induction n generalizing l with
  | zero => rfl
  | succ n ih =>
    rw [filesBelow, List.flatMap_eq_nil_iff]
    rintro ⟨name, e⟩ hchild
    cases e with
    | file c => exact absurd (mem_children.mp hchild) (h name l c (List.suffix_refl l))
    | directory =>
      dsimp only
      rw [ih, List.map_nil]
      exact fun name' parent c hparent =>
        h name' parent c ((List.suffix_cons name l).trans hparent)

/-- Below a place nothing is lost, and no file is new. -/
structure SameFiles (l : Location) (d d' : Disk) : Prop where
  kept : ∀ {name parent e}, l <:+ parent → (name :: parent, e) ∈ d.entries →
    (name :: parent, e) ∈ d'.entries
  files : ∀ {name parent c}, l <:+ parent → (name :: parent, .file c) ∈ d'.entries →
    (name :: parent, .file c) ∈ d.entries

theorem SameFiles.cons (h : SameFiles l d d') (name : String) : SameFiles (name :: l) d d' :=
  ⟨fun hparent => h.kept ((List.suffix_cons name l).trans hparent),
    fun hparent => h.files ((List.suffix_cons name l).trans hparent)⟩

/-- A directory that is new has no files below it: a file would have been there, and the directory
with it. -/
theorem SameFiles.filesBelow_new (h : SameFiles l d d') (hd : d.IsTree)
    (hnew : (name :: l, .directory) ∉ d.entries) : d'.filesBelow n (name :: l) = [] := by
  refine filesBelow_eq_nil fun name' parent c hparent hmem => ?_
  obtain ⟨above, rfl⟩ := hparent
  have hfile := h.files ((List.suffix_cons name l).trans ⟨above, rfl⟩) hmem
  exact hnew (mem_of_entry?_eq (hd.directory_of_suffix hfile))

/-- By induction on the depth that is looked at: it suffices for what is below. -/
theorem SameFiles.filesBelow_eq (h : SameFiles l d d') (hd : d.IsTree) (hd' : d'.IsUnique)
    (hn : (d.below l).length ≤ n) (hn' : (d'.below l).length ≤ n') :
    d.filesBelow n l = d'.filesBelow n' l := by
  induction n generalizing l n' with
  | zero =>
    have hnone := List.eq_nil_of_length_eq_zero (Nat.le_zero.mp hn)
    refine (filesBelow_eq_nil fun name parent c hparent hmem => ?_).symm
    have hbelow := mem_below.mpr ⟨h.files hparent hmem, hparent⟩
    rw [hnone] at hbelow
    cases hbelow
  | succ n ih =>
    cases n' with
    | zero =>
      have hnone := List.eq_nil_of_length_eq_zero (Nat.le_zero.mp hn')
      refine filesBelow_eq_nil fun name parent c hparent hmem => ?_
      have hbelow := mem_below.mpr ⟨h.kept hparent hmem, hparent⟩
      rw [hnone] at hbelow
      cases hbelow
    | succ n' =>
      rw [filesBelow, filesBelow,
        children_eq_filter hd.unique hd' fun name e => h.kept (List.suffix_refl l)]
      refine flatMap_filter_eq ?_ ?_
      · rintro ⟨name, e⟩ hchild hnew
        have hnew := of_decide_eq_false hnew
        cases e with
        | file c => exact absurd (h.files (List.suffix_refl l) (mem_children.mp hchild)) hnew
        | directory =>
          dsimp only
          rw [h.filesBelow_new hd hnew, List.map_nil]
      · rintro ⟨name, e⟩ hchild hkept
        cases e with
        | file c => rfl
        | directory =>
          have hbelow : (d.below (name :: l)).length < (d.below l).length :=
            length_below_lt (of_decide_eq_true hkept)
          have hbelow' := length_below_lt (mem_children.mp hchild)
          have hrest : d.filesBelow n (name :: l) = d'.filesBelow n' (name :: l) :=
            ih (h.cons name) (by omega) (by omega)
          dsimp only
          rw [hrest]

theorem SameFiles.files_eq (h : SameFiles l d d') (hd : d.IsTree) (hd' : d'.IsUnique) :
    d.files l = d'.files l :=
  h.filesBelow_eq hd hd' (List.length_filter_le _ _) (List.length_filter_le _ _)

/-! ## Files by their first names -/

/-- The files that a child of a directory stands for. -/
def filesOf (d : Disk) (n : Nat) (l : Location) : String × Entry → List (List String × Content)
  | (name, .file c) => [([name], c)]
  | (name, .directory) => (d.filesBelow n (name :: l)).map fun file => (name :: file.1, file.2)

theorem filesBelow_succ (d : Disk) (n : Nat) (l : Location) :
    d.filesBelow (n + 1) l = (d.children l).flatMap (d.filesOf n l) := by
  rw [filesBelow]
  congr 1
  funext child
  rcases child with ⟨name, c | -⟩ <;> rfl

/-- The way to each of them starts with the name of the child. -/
theorem head?_of_mem_filesOf {child : String × Entry} {file : List String × Content}
    (h : file ∈ d.filesOf n l child) : file.1.head? = some child.1 := by
  rcases child with ⟨name, c | -⟩
  · obtain rfl := List.mem_singleton.mp h
    rfl
  · obtain ⟨below, -, rfl⟩ := List.mem_map.mp h
    rfl

theorem ne_nil_of_mem_files {file : List String × Content} (h : file ∈ d.files l) :
    file.1 ≠ [] := by
  rw [files] at h
  cases hn : d.entries.length with
  | zero =>
    rw [hn] at h
    cases h
  | succ n =>
    rw [hn, filesBelow_succ, List.mem_flatMap] at h
    obtain ⟨child, -, hfile⟩ := h
    intro hnil
    have hhead := head?_of_mem_filesOf hfile
    rw [hnil] at hhead
    cases hhead

/-- No other child has the name. -/
theorem IsUnique.ne_of_children (hd : d.IsUnique) {before after : List (String × Entry)}
    (hchildren : d.children l = before ++ (name, e) :: after) :
    ∀ child ∈ before ++ after, child.1 ≠ name := by
  have hnodup := hd.nodup_children l
  rw [hchildren, List.nodup_middle, List.nodup_cons] at hnodup
  have hmem : ∀ child ∈ before ++ after, child ∈ d.children l := by
    intro child hchild
    rw [hchildren, List.mem_append, List.mem_cons]
    exact (List.mem_append.mp hchild).imp_right .inr
  have hself : (name, e) ∈ d.children l := by
    rw [hchildren]
    exact List.mem_append_right before List.mem_cons_self
  rintro ⟨_, e'⟩ hchild rfl
  have he := hd.entry?_of_mem (mem_children.mp hself)
  rw [hd.entry?_of_mem (mem_children.mp (hmem _ hchild)), Option.some.injEq] at he
  exact hnodup.1 (he ▸ hchild)

/-- Of the files below a directory, those in a directory with a given name are the files below
that one. -/
theorem IsTree.filter_files (hd : d.IsTree) (hmem : (name :: l, .directory) ∈ d.entries) :
    (d.files l).filter (·.1.head? = some name) =
      (d.files (name :: l)).map fun file => (name :: file.1, file.2) := by
  obtain ⟨n, hn⟩ := Nat.exists_eq_succ_of_ne_zero (List.length_pos_of_mem hmem).ne'
  obtain ⟨before, after, hchildren⟩ := List.append_of_mem (mem_children.mpr hmem)
  have hother : ∀ child ∈ before ++ after,
      (d.filesOf n l child).filter (·.1.head? = some name) = [] := by
    intro child hchild
    refine List.filter_eq_nil_iff.mpr fun file hfile hname => ?_
    rw [head?_of_mem_filesOf hfile, decide_eq_true_iff] at hname
    exact hd.unique.ne_of_children hchildren child hchild (Option.some.inj hname)
  obtain ⟨hbefore, hafter⟩ := List.forall_mem_append.mp hother
  -- One level less suffices below the child.
  have hfuel : d.filesBelow n (name :: l) = d.files (name :: l) := by
    have hless := length_below_lt hmem
    have hall : (d.below l).length ≤ d.entries.length := List.length_filter_le _ _
    have hsame : SameFiles (name :: l) d d := ⟨fun _ h => h, fun _ h => h⟩
    exact hsame.filesBelow_eq hd hd.unique (by omega) (by omega)
  rw [files, hn, filesBelow_succ, List.filter_flatMap, hchildren, List.flatMap_append,
    List.flatMap_cons, List.flatMap_eq_nil_iff.mpr hbefore, List.flatMap_eq_nil_iff.mpr hafter,
    List.nil_append, List.append_nil, List.filter_eq_self.mpr, filesOf, hfuel]
  intro file hfile
  exact decide_eq_true (head?_of_mem_filesOf hfile)

/-! ## What is kept -/

namespace KeepsOthers

variable {places : Location → Prop} {directory path : String}

theorem find (h : KeepsOthers places directory d d') (hfind : d.find path = .ok (l, e))
    (hl : ¬ places l) : d'.find path = .ok (l, e) := by
  obtain ⟨hempty, hfollow, hentry, hslash⟩ := find_eq_ok.mp hfind
  have hstart : d'.start path = d.start path := by rw [start, start, h.current]
  refine find_eq_ok.mpr ⟨hempty, ?_, (h.entries l hl).entry?_of_some hentry, hslash⟩
  rw [hstart]
  exact follow_mono h.directories hfollow

theorem sameFiles (h : KeepsOthers places directory d d') (hd : d.IsTree)
    (hl : ∀ m, l <:+ m → ¬ places m) : SameFiles l d d' := by
  constructor
  · intro name parent e hparent hmem
    have hkept := h.entries _ (hl _ (hparent.trans (List.suffix_cons name parent)))
    exact mem_of_entry?_eq (hkept.entry?_of_some (hd.unique.entry?_of_mem hmem))
  · intro name parent c hparent hmem
    have hentry := (h.unique hd.unique).entry?_of_mem hmem
    rcases h.entries _ (hl _ (hparent.trans (List.suffix_cons name parent))) with
      hkept | ⟨-, hnew, -⟩
    · rw [hentry] at hkept
      exact mem_of_entry?_eq hkept.symm
    · rw [hentry] at hnew
      cases hnew

theorem files (h : KeepsOthers places directory d d') (hd : d.IsTree)
    (hl : ∀ m, l <:+ m → ¬ places m) : d'.files l = d.files l :=
  ((h.sameFiles hd hl).files_eq hd (h.unique hd.unique)).symm

end KeepsOthers

end ServiceStubs.Disk
