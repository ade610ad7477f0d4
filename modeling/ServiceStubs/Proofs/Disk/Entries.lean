import ServiceStubs.Disk.Basic
import ServiceStubs.Proofs.Result

/-!
# Entries and paths

An entry that is put on a disk is all that changes.  Where a path leads depends only on its steps;
whether it can be followed depends only on where the directories are, and the more there are the
more paths can be followed.
-/

namespace ServiceStubs.Disk

variable {d d' : Disk} {l m : Location} {path : String}

/-! ## Entries -/

theorem lookup_filter_ne {α β : Type} [BEq α] [LawfulBEq α] {a b : α} (h : a ≠ b)
    (entries : List (α × β)) :
    (entries.filter (·.1 != b)).lookup a = entries.lookup a := by
  induction entries with
  | nil => rfl
  | cons entry entries ih =>
    obtain ⟨key, value⟩ := entry
    by_cases hkey : key = b
    · subst hkey
      rw [List.filter_cons_of_neg (by simp), ih, List.lookup_cons, beq_false_of_ne h]
    · rw [List.filter_cons_of_pos (by simpa using hkey), List.lookup_cons, List.lookup_cons, ih]

theorem entry?_put_self (d : Disk) (hl : l ≠ []) (e : Entry) : entry? (d.put l e) l = some e := by
  obtain ⟨name, parent, rfl⟩ := List.exists_cons_of_ne_nil hl
  simp only [put, entry?, List.lookup_cons, beq_self_eq_true]

theorem entry?_put_of_ne (d : Disk) (h : m ≠ l) (e : Entry) :
    entry? (d.put l e) m = d.entry? m := by
  cases m with
  | nil => rfl
  | cons name parent =>
    have hkey : (name :: parent == l) = false := beq_false_of_ne h
    simp only [put, entry?, List.lookup_cons, hkey]
    exact lookup_filter_ne h d.entries

/-- No place has two entries. -/
def IsUnique (d : Disk) : Prop := (d.entries.map Prod.fst).Nodup

instance (d : Disk) : Decidable d.IsUnique :=
  inferInstanceAs (Decidable (d.entries.map Prod.fst).Nodup)

theorem IsUnique.put (h : d.IsUnique) (l : Location) (e : Entry) : (d.put l e).IsUnique := by
  rw [IsUnique, Disk.put, List.map_cons, List.nodup_cons]
  constructor
  · rw [List.mem_map]
    rintro ⟨entry, hentry, rfl⟩
    exact absurd rfl (bne_iff_ne.mp (List.mem_filter.mp hentry).2)
  · exact h.sublist (List.filter_sublist.map _)

/-- A location that is no directory is not the top. -/
theorem ne_nil_of_not_directory (h : d.entry? l ≠ some .directory) : l ≠ [] := by
  rintro rfl
  exact h rfl

theorem requireDirectory_eq_ok {u : Unit} :
    d.requireDirectory l = .ok u ↔ d.entry? l = some .directory := by
  rw [requireDirectory]
  split <;> simp_all

/-! ## Following -/

/-- Where steps lead. -/
def walk (l : Location) (ss : List Step) : Location := ss.foldl Step.target l

theorem walk_append (l : Location) (ss ts : List Step) :
    walk l (ss ++ ts) = walk (walk l ss) ts :=
  List.foldl_append

theorem walk_append_named (l : Location) (ss : List Step) (name : String) :
    walk l (ss ++ [.named name]) = name :: walk l ss :=
  walk_append l ss [.named name]

/-- Steps that stay in place lead nowhere else. -/
theorem walk_filter_here (l : Location) (ss : List Step) :
    walk l (ss.filter (· != .here)) = walk l ss := by
  induction ss generalizing l with
  | nil => rfl
  | cons s ss ih =>
    cases s with
    | here => exact ih l
    | above => exact ih l.tail
    | named name => exact ih (name :: l)

theorem follow_cons_eq_ok {s : Step} {ss : List Step} :
    d.follow l (s :: ss) = .ok m ↔
      d.entry? l = some .directory ∧ d.follow (s.target l) ss = .ok m := by
  rw [follow, bind_eq_ok]
  constructor
  · rintro ⟨u, hdirectory, hrest⟩
    exact ⟨requireDirectory_eq_ok.mp hdirectory, hrest⟩
  · rintro ⟨hdirectory, hrest⟩
    exact ⟨(), requireDirectory_eq_ok.mpr hdirectory, hrest⟩

theorem follow_append_eq_ok {ss ts : List Step} :
    d.follow l (ss ++ ts) = .ok m ↔ ∃ k, d.follow l ss = .ok k ∧ d.follow k ts = .ok m := by
  induction ss generalizing l with
  | nil => simp [follow]
  | cons s ss ih => simp only [List.cons_append, follow_cons_eq_ok, ih, and_assoc, exists_and_left]

/-- The last step has to be taken in a directory. -/
theorem follow_concat_eq_ok {ss : List Step} {s : Step} :
    d.follow l (ss ++ [s]) = .ok m ↔
      ∃ k, d.follow l ss = .ok k ∧ d.entry? k = some .directory ∧ s.target k = m := by
  simp [follow_append_eq_ok, follow_cons_eq_ok, follow.eq_1]

theorem eq_walk_of_follow {ss : List Step} (h : d.follow l ss = .ok m) : m = walk l ss := by
  induction ss generalizing l with
  | nil => exact (Except.ok.inj h).symm
  | cons s ss ih => exact ih (follow_cons_eq_ok.mp h).2

/-- Steps can still be followed where there are more directories. -/
theorem follow_mono (hmore : ∀ k, d.entry? k = some .directory → d'.entry? k = some .directory)
    {ss : List Step} (h : d.follow l ss = .ok m) : d'.follow l ss = .ok m := by
  induction ss generalizing l with
  | nil => exact h
  | cons s ss ih =>
    obtain ⟨hdirectory, hrest⟩ := follow_cons_eq_ok.mp h
    exact follow_cons_eq_ok.mpr ⟨hmore l hdirectory, ih hrest⟩

theorem isDirectory_of_follow {ss : List Step} (h : d.follow l ss = .ok m)
    (hm : d.entry? m = some .directory) : d.isDirectory l ss = true := by
  simp only [isDirectory, h, hm, beq_self_eq_true]

/-! ## The place of a file -/

theorem isEmpty_of_steps {before : List Step} {last : Step}
    (hsteps : steps path = before ++ [last]) : path.isEmpty = false := by
  refine Bool.eq_false_iff.mpr fun hempty => ?_
  rw [String.isEmpty_iff] at hempty
  subst hempty
  cases before <;> cases hsteps

/-- A file can be created where a path leads that ends in a name, unless there is a directory. -/
theorem fileLocation_eq_ok :
    d.fileLocation path = .ok l ↔
      (∃ before name, steps path = before ++ [.named name]) ∧ endsInSlash path = false ∧
        d.follow (d.start path) (steps path) = .ok l ∧ d.entry? l ≠ some .directory := by
  rcases List.eq_nil_or_concat (steps path) with hsteps | ⟨before, last, hsteps⟩
  · -- A path without steps has no place.
    have hnone : ¬ ∃ before name, steps path = before ++ [.named name] := by
      simp [hsteps]
    simp only [fileLocation, hsteps, List.getLast?_nil]
    split <;> simp_all
  · rw [List.concat_eq_append] at hsteps
    simp only [fileLocation, isEmpty_of_steps hsteps, hsteps, follow_concat_eq_ok, bind_eq_ok,
      List.getLast?_concat, List.dropLast_concat, requireDirectory_eq_ok, Bool.false_eq_true,
      if_false]
    constructor
    · rintro ⟨k, hfollow, -, hdirectory, hplace⟩
      split at hplace
      · cases hplace
      · next hslash =>
        split at hplace
        · next name =>
          split at hplace
          · cases hplace
          · next hfree =>
            cases hplace
            exact ⟨⟨before, name, rfl⟩, Bool.eq_false_iff.mpr hslash,
              ⟨k, hfollow, hdirectory, rfl⟩, hfree⟩
        · cases hplace
    · rintro ⟨⟨_, name, hlast⟩, hslash, ⟨k, hfollow, hdirectory, rfl⟩, hfree⟩
      obtain ⟨-, hlast⟩ := List.append_inj' hlast rfl
      obtain rfl := List.singleton_inj.mp hlast
      refine ⟨k, hfollow, (), hdirectory, ?_⟩
      simp only [hslash, Bool.false_eq_true, if_false]
      exact if_neg hfree

/-- What a path leads to is found there, but no file by a path that ends in a slash. -/
theorem find_eq_ok {e : Entry} : d.find path = .ok (l, e) ↔
    path.isEmpty = false ∧ d.follow (d.start path) (steps path) = .ok l ∧ d.entry? l = some e ∧
      (endsInSlash path = true → e = .directory) := by
  rw [find]
  cases path.isEmpty with
  | true => exact ⟨nofun, nofun⟩
  | false =>
    rw [if_neg Bool.false_ne_true, bind_eq_ok]
    constructor
    · rintro ⟨m, hfollow, hfound⟩
      split at hfound
      · next c hentry =>
        split at hfound
        · cases hfound
        · next hslash =>
          obtain ⟨rfl, rfl⟩ := Prod.mk.inj (Except.ok.inj hfound)
          exact ⟨rfl, hfollow, hentry, fun h => absurd h hslash⟩
      · next hentry =>
        obtain ⟨rfl, rfl⟩ := Prod.mk.inj (Except.ok.inj hfound)
        exact ⟨rfl, hfollow, hentry, fun _ => rfl⟩
      · cases hfound
    · rintro ⟨-, hfollow, hentry, hslash⟩
      refine ⟨l, hfollow, ?_⟩
      rw [hentry]
      cases e with
      | file c => exact if_neg fun h => Entry.noConfusion (hslash h)
      | directory => rfl

/-- What was created at the place of a file is found there. -/
theorem find_of_fileLocation {c : Content} (h : d.fileLocation path = .ok l)
    (hl : d'.entry? l = some (.file c)) (hcurrent : d'.current = d.current)
    (hmore : ∀ k, d.entry? k = some .directory → d'.entry? k = some .directory) :
    d'.find path = .ok (l, .file c) := by
  obtain ⟨⟨before, name, hsteps⟩, hslash, hfollow, -⟩ := fileLocation_eq_ok.mp h
  have hstart : d'.start path = d.start path := by rw [start, start, hcurrent]
  refine find_eq_ok.mpr ⟨isEmpty_of_steps hsteps, ?_, hl, fun h => ?_⟩
  · rw [hstart]
    exact follow_mono hmore hfollow
  · rw [hslash] at h
    cases h

/-! ## Disks with the same directories -/

/-- The same locations are directories, and the current directory is the same. -/
structure SameDirectories (d d' : Disk) : Prop where
  current : d'.current = d.current
  directory : ∀ l, d'.entry? l = some .directory ↔ d.entry? l = some .directory

namespace SameDirectories

theorem refl (d : Disk) : SameDirectories d d := ⟨rfl, fun _ => Iff.rfl⟩

theorem trans {d'' : Disk} (h : SameDirectories d d') (h' : SameDirectories d' d'') :
    SameDirectories d d'' :=
  ⟨h'.current.trans h.current, fun l => (h'.directory l).trans (h.directory l)⟩

/-- A file in the place of a file or of nothing. -/
theorem put (hl : d.entry? l ≠ some .directory) (c : Content) :
    SameDirectories d (d.put l (.file c)) where
  current := rfl
  directory := by
    intro m
    by_cases hm : m = l
    · subst hm
      rw [entry?_put_self d (ne_nil_of_not_directory hl)]
      exact ⟨nofun, fun h => absurd h hl⟩
    · rw [entry?_put_of_ne d hm]

theorem start (h : SameDirectories d d') (path : String) : d'.start path = d.start path := by
  rw [Disk.start, Disk.start, h.current]

theorem follow (h : SameDirectories d d') {ss : List Step} :
    d'.follow l ss = .ok m ↔ d.follow l ss = .ok m :=
  ⟨follow_mono fun k => (h.directory k).mp, follow_mono fun k => (h.directory k).mpr⟩

theorem fileLocation (h : SameDirectories d d') :
    d'.fileLocation path = .ok l ↔ d.fileLocation path = .ok l := by
  rw [fileLocation_eq_ok, fileLocation_eq_ok, h.start, h.follow, ne_eq, ne_eq, h.directory]

end SameDirectories

end ServiceStubs.Disk
