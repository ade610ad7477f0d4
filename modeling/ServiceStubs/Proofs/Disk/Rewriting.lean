import ServiceStubs.Proofs.Disk.Writing

/-!
# Writing again

Units that were written can be written again, and then nothing changes: the directory is there, the
units have the places that they had, and each place holds what the last unit for it puts there.
-/

namespace ServiceStubs.Disk

variable {d d' : Disk} {start l : Location} {path : List Step} {directory : String}
variable {units : List GeneratedUnit} {files : List (Location × Content)}

/-! ## Making a directory that is there -/

theorem exists_of_isDirectory (h : d.isDirectory start path = true) :
    ∃ l, d.follow start path = .ok l ∧ d.entry? l = some .directory := by
  rw [isDirectory] at h
  split at h
  · next l hfollow => exact ⟨l, hfollow, eq_of_beq h⟩
  · cases h

theorem makeDirectory_of_isDirectory (h : d.isDirectory start path = true) :
    d.makeDirectory start path = .error .alreadyExists := by
  rcases List.eq_nil_or_concat path with rfl | ⟨before, last, rfl⟩
  · rfl
  · rw [List.concat_eq_append] at h ⊢
    obtain ⟨l, hfollow, hl⟩ := exists_of_isDirectory h
    obtain ⟨parent, hbefore, hparent, rfl⟩ := follow_concat_eq_ok.mp hfollow
    have hrequire : d.requireDirectory parent = .ok () := requireDirectory_eq_ok.mpr hparent
    rw [makeDirectory, List.getLast?_concat, List.dropLast_concat]
    simp only [hbefore, hrequire, bind, Except.bind]
    cases last with
    | named name => exact if_pos (Option.isSome_iff_exists.mpr ⟨_, hl⟩)
    | here => rfl
    | above => rfl

theorem makeAll_of_isDirectory {path : String}
    (h : d.isDirectory (d.start path) (steps path) = true) : d.makeAll path = (.ok (), d) := by
  rw [makeAll, makeAllFuel, makeDirectory_of_isDirectory h]
  exact if_pos h

/-! ## Putting files again -/

/-- What files leave of the entries that were there: those in other places. -/
def others (files : List (Location × Content)) (entries : List (Location × Entry)) :
    List (Location × Entry) :=
  entries.filter fun entry => entry.1 ∉ files.map Prod.fst

theorem others_append (files : List (Location × Content)) (entries more : List (Location × Entry)) :
    others files (entries ++ more) = others files entries ++ others files more :=
  List.filter_append _ _

theorem others_others (files : List (Location × Content)) (entries : List (Location × Entry)) :
    others files (others files entries) = others files entries := by
  rw [others, others, List.filter_filter]
  simp only [Bool.and_self]

theorem others_cons (file : Location × Content) (entries : List (Location × Entry)) :
    others files (entries.filter (·.1 != file.1)) = others (file :: files) entries := by
  rw [others, others, List.filter_filter]
  refine List.filter_congr fun entry _ => ?_
  rw [List.map_cons, Bool.eq_iff_iff, Bool.and_eq_true, decide_eq_true_iff, decide_eq_true_iff,
    bne_iff_ne, List.mem_cons, not_or, and_comm]

theorem others_eq_nil {entries : List (Location × Entry)}
    (h : ∀ entry ∈ entries, entry.1 ∈ files.map Prod.fst) : others files entries = [] := by
  refine List.filter_eq_nil_iff.mpr fun entry hentry => ?_
  rw [decide_eq_true_iff, not_not]
  exact h entry hentry

/-- By induction on the files: they come first, whatever the disk is. -/
theorem exists_entries_putAll (files : List (Location × Content)) :
    ∃ front : List (Location × Entry), (∀ entry ∈ front, entry.1 ∈ files.map Prod.fst) ∧
      ∀ d : Disk, (d.putAll files).entries = front ++ others files d.entries := by
  induction files with
  | nil => exact ⟨[], List.forall_mem_nil _, fun d => (List.filter_eq_self.mpr fun _ _ => rfl).symm⟩
  | cons file files ih =>
    obtain ⟨front, hfront, hentries⟩ := ih
    let first : Location × Entry := (file.1, .file file.2)
    refine ⟨front ++ others files [first], ?_, fun d => ?_⟩
    · intro entry hentry
      rcases List.mem_append.mp hentry with hmem | hmem
      · exact List.mem_cons_of_mem _ (hfront entry hmem)
      · obtain rfl := List.mem_singleton.mp (List.mem_filter.mp hmem).1
        exact List.mem_cons_self
    · rw [putAll_cons, hentries, put, ← List.singleton_append, others_append, List.append_assoc,
        others_cons]

theorem current_putAll (d : Disk) (files : List (Location × Content)) :
    (d.putAll files).current = d.current := by
  induction files generalizing d with
  | nil => rfl
  | cons file files ih => exact ih _

theorem eq_of_entries (hentries : d.entries = d'.entries) (hcurrent : d.current = d'.current) :
    d = d' := by
  cases d
  cases d'
  rw [mk.injEq]
  exact ⟨hentries, hcurrent⟩

/-- Files that are put a second time change nothing. -/
theorem putAll_putAll (d : Disk) (files : List (Location × Content)) :
    (d.putAll files).putAll files = d.putAll files := by
  obtain ⟨front, hfront, hentries⟩ := exists_entries_putAll files
  refine eq_of_entries ?_ (current_putAll (d.putAll files) files)
  rw [hentries, hentries, others_append, others_eq_nil hfront, others_others, List.nil_append]

/-! ## Units -/

theorem eq_ok_of_isOk {result : Except Fault Unit} (h : result.isOk = true) : result = .ok () := by
  cases result with
  | ok done => rfl
  | error fault => cases h

/-- What a write comes to is decided by the directories: on every disk that has the same ones it puts
the same files, and it is all right on each of them or on none. -/
structure Puts (d : Disk) (files : List (Location × Content)) (right : Bool)
    (write : Disk → Except Fault Unit × Disk) : Prop where
  places : ∀ file ∈ files, d.entry? file.1 ≠ some .directory
  isOk : ∀ d', SameDirectories d d' → (write d').1.isOk = right
  disk : ∀ d', SameDirectories d d' → (write d').2 = d'.putAll files

namespace Puts

variable {right : Bool} {write : Disk → Except Fault Unit × Disk}

theorem sameDirectories (h : Puts d files right write) (hsame : SameDirectories d d') :
    SameDirectories d (d'.putAll files) := by
  refine hsame.trans (.putAll fun file hfile => ?_)
  rw [ne_eq, hsame.directory]
  exact h.places file hfile

theorem result_eq_ok (h : Puts d files true write) (hsame : SameDirectories d d') :
    write d' = (.ok (), d'.putAll files) :=
  Prod.ext (eq_ok_of_isOk (h.isOk d' hsame)) (h.disk d' hsame)

theorem of_fill (d : Disk) (path : String) (c : Content) (result : Except Fault Unit) :
    ∃ files right, Puts d files right (·.fill path c result) := by
  cases hplace : d.fileLocation path with
  | ok l =>
    refine ⟨[(l, c)], result.isOk, List.forall_mem_singleton.mpr ?_, fun d' hsame => ?_,
      fun d' hsame => ?_⟩
    · exact (fileLocation_eq_ok.mp hplace).2.2.2
    · rw [fill, writeFile, hsame.fileLocation.mpr hplace]
      rfl
    · rw [fill, writeFile, hsame.fileLocation.mpr hplace]
      rfl
  | error e =>
    have hnone {d' : Disk} (hsame : SameDirectories d d') :
        ∃ e', d'.fileLocation path = .error e' := by
      cases hplace' : d'.fileLocation path with
      | ok l =>
        rw [hsame.fileLocation.mp hplace'] at hplace
        cases hplace
      | error e' => exact ⟨e', rfl⟩
    refine ⟨[], false, List.forall_mem_nil _, fun d' hsame => ?_, fun d' hsame => ?_⟩
    · obtain ⟨e', he'⟩ := hnone hsame
      rw [fill, writeFile, he']
      rfl
    · obtain ⟨e', he'⟩ := hnone hsame
      rw [fill, writeFile, he']
      rfl

theorem of_writeUnit (d : Disk) (directory : String) (unit : GeneratedUnit) (fate : WriteFate) :
    ∃ files right, Puts d files right (·.writeUnit directory unit fate) := by
  cases fate with
  | taken => exact of_fill d _ _ _
  | refused reason => exact ⟨[], false, List.forall_mem_nil _, fun _ _ => rfl, fun _ _ => rfl⟩
  | stopped count reason => exact of_fill d _ _ _
  | unflushed reason => exact of_fill d _ _ _

/-- By induction on the units: the first puts its files, and then the directories are the same. -/
theorem of_writeEach (d : Disk) (directory : String) (units : List GeneratedUnit)
    (fates : List WriteFate) :
    ∃ files right, Puts d files right (writeEach directory · units fates) := by
  induction units generalizing fates with
  | nil => exact ⟨[], true, List.forall_mem_nil _, fun _ _ => rfl, fun _ _ => rfl⟩
  | cons unit units ih =>
    obtain ⟨files, right, hunit⟩ := of_writeUnit d directory unit (fates.headD .taken)
    cases right with
    | false =>
      have hfailed {d' : Disk} (hsame : SameDirectories d d') :
          writeEach directory d' (unit :: units) fates =
            d'.writeUnit directory unit (fates.headD .taken) := by
        have hnot := hunit.isOk d' hsame
        rw [writeEach]
        split
        · next hok =>
          rw [hok] at hnot
          cases hnot
        · rfl
      refine ⟨files, false, hunit.places, fun d' hsame => ?_, fun d' hsame => ?_⟩
      · rw [hfailed hsame]
        exact hunit.isOk d' hsame
      · rw [hfailed hsame]
        exact hunit.disk d' hsame
    | true =>
      obtain ⟨rest, right, hrest⟩ := ih fates.tail
      have hstep {d' : Disk} (hsame : SameDirectories d d') :
          writeEach directory d' (unit :: units) fates =
            writeEach directory (d'.putAll files) units fates.tail := by
        rw [writeEach, hunit.result_eq_ok hsame]
      refine ⟨files ++ rest, right, List.forall_mem_append.mpr ⟨hunit.places, hrest.places⟩,
        fun d' hsame => ?_, fun d' hsame => ?_⟩
      · rw [hstep hsame]
        exact hrest.isOk _ (hunit.sameDirectories hsame)
      · rw [hstep hsame, putAll_append]
        exact hrest.disk _ (hunit.sameDirectories hsame)

end Puts

/-- The directory that was made is there after units were written into it, or as many of them as
could be. -/
theorem isDirectory_writeEach (hmade : d.makeAll directory = (.ok (), d'))
    (units : List GeneratedUnit) (fates : List WriteFate) :
    let written := (writeEach directory d' units fates).2
    written.isDirectory (written.start directory) (steps directory) = true := by
  have hmakes : Makes (d.start directory) (steps directory) d (.ok (), d') :=
    hmade ▸ makes_of_makeAll d directory
  obtain ⟨files, right, hputs⟩ := Puts.of_writeEach d' directory units fates
  have hsame := hputs.sameDirectories (.refl d')
  obtain ⟨l, hfollow, hl⟩ := exists_of_isDirectory (hmakes.isDirectory rfl)
  intro written
  rw [show written = d'.putAll files from hputs.disk d' (.refl d'), hsame.start, Disk.start,
    hmakes.grows.current]
  exact isDirectory_of_follow (hsame.follow.mpr hfollow) ((hsame.directory l).mpr hl)

/-- A second attempt that meets with the same fates ends like the first, and the disk stays as it
is. -/
theorem writeUnits_twice {fates : WriteFates}
    (hroot : d.makeRoot directory fates.directory = (.ok (), d')) (units : List GeneratedUnit) :
    let first := d.writeUnits directory units fates
    (first.2.writeUnits directory units fates).1.isOk = first.1.isOk ∧
      (first.2.writeUnits directory units fates).2 = first.2 := by
  intro first
  have hfirst : first = writeEach directory d' units fates.units := by
    simp only [first, writeUnits, hroot]
  obtain ⟨hfate, hmade⟩ := makeRoot_eq_ok.mp hroot
  have hdirectory := isDirectory_writeEach hmade units fates.units
  obtain ⟨files, right, hputs⟩ := Puts.of_writeEach d' directory units fates.units
  have hsame := hputs.sameDirectories (.refl d')
  rw [← hfirst] at hdirectory
  rw [writeUnits, makeRoot_eq_ok.mpr ⟨hfate, makeAll_of_isDirectory hdirectory⟩]
  rw [hfirst, hputs.disk d' (.refl d'), hputs.isOk d' (.refl d')]
  exact ⟨hputs.isOk _ hsame, (hputs.disk _ hsame).trans (putAll_putAll d' files)⟩

/-- The directory is there after units were written into it. -/
theorem isDirectory_of_writeUnits {fates : WriteFates}
    (h : d.writeUnits directory units fates = (.ok (), d')) :
    d'.isDirectory (d'.start directory) (steps directory) = true := by
  obtain ⟨d₁, hroot, heach⟩ := makeRoot_of_writeUnits h
  have hdirectory := isDirectory_writeEach (makeRoot_eq_ok.mp hroot).2 units fates.units
  rw [heach] at hdirectory
  exact hdirectory

/-- A second time the same units are written, and the disk stays as it is. -/
theorem writeUnits_again {fates : WriteFates}
    (h : d.writeUnits directory units fates = (.ok (), d')) :
    d'.writeUnits directory units fates = (.ok (), d') := by
  obtain ⟨d₁, hroot, -⟩ := makeRoot_of_writeUnits h
  obtain ⟨hok, hdisk⟩ := writeUnits_twice hroot units
  rw [h] at hok hdisk
  exact Prod.ext (eq_ok_of_isOk hok) hdisk

end ServiceStubs.Disk
