import ServiceStubs.Proofs.Disk.Rewriting

/-!
# What writing units comes to

Either all units are written, or those before the first that fails, or the directory cannot be made
and there is no unit.  The unit that fails leaves the disk alone if its file is not opened, and
otherwise just the octets that were written.  Whichever it is, writing the same units again changes
nothing more, as long as they meet with the same fates.
-/

namespace ServiceStubs.Disk

variable {d d' : Disk} {start l m : Location} {path : List Step} {directory : String}
variable {units before after : List GeneratedUnit} {unit : GeneratedUnit}

/-! ## Directories that cannot be made -/

theorem parentSteps_length_lt (h : path ≠ []) : (parentSteps path).length < path.length := by
  obtain ⟨s, ss, rfl⟩ := List.exists_cons_of_ne_nil h
  have hfilter : (ss.filter (· != .here)).length ≤ ss.length := List.length_filter_le _ ss
  rw [parentSteps, List.length_dropLast, List.length_cons, List.length_cons]
  omega

theorem follow_filter_here (h : d.follow l path = .ok m) :
    d.follow l (path.filter (· != .here)) = .ok m := by
  induction path generalizing l with
  | nil => exact h
  | cons s ss ih =>
    obtain ⟨hdirectory, hrest⟩ := follow_cons_eq_ok.mp h
    cases s with
    | here => exact ih hrest
    | above => exact follow_cons_eq_ok.mpr ⟨hdirectory, ih hrest⟩
    | named name => exact follow_cons_eq_ok.mpr ⟨hdirectory, ih hrest⟩

/-- Where a path can be followed, the way up to its last step ends in a directory. -/
theorem isDirectory_parentSteps (hne : path ≠ []) (h : d.follow start path = .ok m) :
    d.isDirectory start (parentSteps path) = true := by
  obtain ⟨s, ss, rfl⟩ := List.exists_cons_of_ne_nil hne
  obtain ⟨hdirectory, hrest⟩ := follow_cons_eq_ok.mp h
  have hall : d.follow start (s :: ss.filter (· != .here)) = .ok m :=
    follow_cons_eq_ok.mpr ⟨hdirectory, follow_filter_here hrest⟩
  rw [← List.dropLast_append_getLast (List.cons_ne_nil s _), follow_concat_eq_ok] at hall
  obtain ⟨parent, hfollow, hparent, -⟩ := hall
  exact isDirectory_of_follow hfollow hparent

theorem makeAllFuel_of_isDirectory (n : Nat) (h : d.isDirectory start path = true) :
    makeAllFuel start (n + 1) path d = (.ok (), d) := by
  rw [makeAllFuel, makeDirectory_of_isDirectory h]
  exact if_pos h

/-- The directory cannot be made, and no attempt leaves anything behind. -/
def CannotMake (start : Location) (path : List Step) (d : Disk) : Prop :=
  ∀ n, path.length < n → ∃ e, makeAllFuel start n path d = (.error e, d)

namespace CannotMake

theorem isDirectory_eq_false (h : CannotMake start path d) : d.isDirectory start path = false := by
  refine Bool.eq_false_iff.mpr fun hdirectory => ?_
  obtain ⟨e, hrefused⟩ := h (path.length + 1) (Nat.lt_succ_self _)
  rw [makeAllFuel_of_isDirectory _ hdirectory] at hrefused
  cases hrefused

/-- The parent is there, or it is not what is missing. -/
theorem of_error {e : DiskError} (hmake : d.makeDirectory start path = .error e)
    (hnot : d.isDirectory start path = false)
    (hparent : e = .notFound → d.isDirectory start (parentSteps path) = true) :
    CannotMake start path d := by
  intro n hn
  obtain ⟨n, rfl⟩ := Nat.exists_eq_succ_of_ne_zero (Nat.ne_zero_of_lt hn)
  refine ⟨e, ?_⟩
  have hsettle : ¬ d.isDirectory start path = true := Bool.eq_false_iff.mp hnot
  rw [makeAllFuel, hmake]
  cases e with
  | notFound =>
    -- The parent takes one of the directories that may be made, although it is there.
    have hne : path ≠ [] := by
      rintro rfl
      cases hmake
    have hpos : n ≠ 0 := by
      have := List.length_pos_iff.mpr hne
      omega
    obtain ⟨n, rfl⟩ := Nat.exists_eq_succ_of_ne_zero hpos
    dsimp only
    rw [makeAllFuel_of_isDirectory n (hparent rfl)]
    dsimp only
    rw [hmake]
    exact if_neg hsettle
  | alreadyExists => exact if_neg hsettle
  | notDirectory => exact if_neg hsettle
  | isDirectory => exact if_neg hsettle

/-- The parent cannot be made either. -/
theorem of_parent (hne : path ≠ []) (hparent : CannotMake start (parentSteps path) d) :
    CannotMake start path d := by
  have hfollow : ∀ m, d.follow start path ≠ .ok m := by
    intro m hm
    have hdirectory := isDirectory_parentSteps hne hm
    rw [hparent.isDirectory_eq_false] at hdirectory
    cases hdirectory
  have hnot : d.isDirectory start path = false := by
    refine Bool.eq_false_iff.mpr fun hdirectory => ?_
    obtain ⟨m, hm, -⟩ := exists_of_isDirectory hdirectory
    exact hfollow m hm
  cases hmake : d.makeDirectory start path with
  | ok d' => exact (hfollow _ (makeDirectory_eq_ok hmake).1).elim
  | error e =>
    by_cases he : e = .notFound
    · subst he
      intro n hn
      obtain ⟨n, rfl⟩ := Nat.exists_eq_succ_of_ne_zero (Nat.ne_zero_of_lt hn)
      have hlength := parentSteps_length_lt hne
      obtain ⟨e, hrefused⟩ := hparent n (by omega)
      refine ⟨e, ?_⟩
      rw [makeAllFuel, hmake]
      dsimp only
      rw [hrefused]
    · exact of_error hmake hnot fun h => absurd h he

/-- By induction on how many directories may be made: a refusal is that of the parent, or it comes
when the parent is there. -/
theorem of_makeAllFuel {n : Nat} {e : DiskError} (hn : path.length < n)
    (h : makeAllFuel start n path d = (.error e, d')) : CannotMake start path d' := by
  induction n generalizing path e with
  | zero => cases hn
  | succ n ih =>
    rw [makeAllFuel] at h
    dsimp only at h
    split at h
    · cases h
    · next hmake =>
      have hne : path ≠ [] := by
        rintro rfl
        cases hmake
      have hlength := parentSteps_length_lt hne
      split at h
      · next d₁ hparent =>
        have hmakes : Makes start (parentSteps path) d _ := .of_makeAllFuel n (parentSteps path) d
        rw [hparent] at hmakes
        split at h
        · cases h
        · next e' hagain =>
          split at h
          · cases h
          · next hnot =>
            cases h
            exact of_error hagain (Bool.eq_false_iff.mpr hnot) fun _ => hmakes.isDirectory rfl
      · exact of_parent hne (ih (by omega) h)
    · next e' hother hmake =>
      split at h
      · cases h
      · next hnot =>
        cases h
        exact of_error hmake (Bool.eq_false_iff.mpr hnot) fun h => absurd h hother

end CannotMake

/-- A directory that was refused is refused again, and then nothing is left behind. -/
theorem makeAll_again {path : String} {e : DiskError} (h : d.makeAll path = (.error e, d')) :
    d'.isDirectory (d'.start path) (steps path) = false ∧
      ∃ e', d'.makeAll path = (.error e', d') := by
  have hmakes := makes_of_makeAll d path
  rw [h] at hmakes
  have hstart : d'.start path = d.start path := by
    rw [Disk.start, Disk.start, hmakes.grows.current]
  have hrefused := CannotMake.of_makeAllFuel (Nat.lt_succ_self _) h
  rw [makeAll, hstart]
  exact ⟨hrefused.isDirectory_eq_false, hrefused _ (Nat.lt_succ_self _)⟩

/-- Directories that were made are there, and those that were refused are refused again. -/
theorem makeAllFuel_twice (start : Location) (path : List Step) (d : Disk) :
    let first := makeAllFuel start (path.length + 1) path d
    (makeAllFuel start (path.length + 1) path first.2).2 = first.2 := by
  intro first
  have hmakes : Makes start path d first := .of_makeAllFuel _ path d
  cases hfirst : first.1 with
  | ok done => rw [makeAllFuel_of_isDirectory _ (hmakes.isDirectory hfirst)]
  | error e =>
    have hrefused := CannotMake.of_makeAllFuel (Nat.lt_succ_self _)
      (Prod.ext hfirst rfl : first = (.error e, first.2))
    obtain ⟨e', hagain⟩ := hrefused _ (Nat.lt_succ_self _)
    rw [hagain]

theorem grows_of_makeRoot (d : Disk) (directory : String) (fate : DirectoryFate) :
    GrowsIn (d.OnTheWay directory) d (d.makeRoot directory fate).2 := by
  cases fate with
  | taken =>
    have hgrows := (makes_of_makeAll d directory).grows
    rw [makeRoot]
    generalize d.makeAll directory = result at hgrows ⊢
    obtain ⟨e | _, d₁⟩ := result <;> exact hgrows
  | refused count reason =>
    refine (Makes.of_makeAllFuel _ ((steps directory).take count) d).grows.mono ?_
    rintro l ⟨before, hbefore, rfl⟩
    exact ⟨before, hbefore.trans (List.take_prefix count _), rfl⟩

/-- A host that fails to make the directory fails again, and leaves what it left. -/
theorem makeRoot_again {fate : DirectoryFate} {fault : Fault}
    (h : d.makeRoot directory fate = (.error fault, d')) :
    ∃ fault', d'.makeRoot directory fate = (.error fault', d') := by
  cases fate with
  | taken =>
    rw [makeRoot] at h
    split at h
    · cases h
    · next e d₁ hrefused =>
      cases h
      obtain ⟨-, e', hagain⟩ := makeAll_again hrefused
      exact ⟨_, by rw [makeRoot, hagain]⟩
  | refused count reason =>
    have hgrows := grows_of_makeRoot d directory (.refused count reason)
    rw [h] at hgrows
    have hstart : d'.start directory = d.start directory := by
      rw [Disk.start, Disk.start, hgrows.current]
    cases h
    refine ⟨refusal "create directory" directory reason, ?_⟩
    rw [makeRoot, hstart, makeAllFuel_twice]

/-! ## Unit by unit -/

/-- A unit that is not written, with the fault and the disk that it leaves.  The fault names the
path of the unit. -/
inductive UnitFails (d : Disk) (directory : String) (unit : GeneratedUnit) :
    WriteFate → Fault → Disk → Prop
  /-- There can be no file at the path. -/
  | unplaced {fate : WriteFate} {e : DiskError}
      (refused : d.fileLocation (Path.join directory unit.name) = .error e) :
      UnitFails d directory unit fate
        (refusal "create file" (Path.join directory unit.name) e.message) d
  | unopened {reason : String} :
      UnitFails d directory unit (.refused reason)
        (refusal "create file" (Path.join directory unit.name) reason) d
  /-- The file holds so many octets of the text. -/
  | stopped {count : Nat} {reason : String} {l : Location}
      (opened : d.fileLocation (Path.join directory unit.name) = .ok l) :
      UnitFails d directory unit (.stopped count reason)
        (refusal "write file" (Path.join directory unit.name) reason)
        (d.put l (.file (.ofBytes (unit.text.toUTF8.extract 0 count))))
  /-- The file holds all of the text. -/
  | unflushed {reason : String} {l : Location}
      (opened : d.fileLocation (Path.join directory unit.name) = .ok l) :
      UnitFails d directory unit (.unflushed reason)
        (refusal "flush file" (Path.join directory unit.name) reason)
        (d.put l (.file (.text unit.text)))

theorem fill_eq_error {path : String} {c : Content} {result : Except Fault Unit} {fault : Fault}
    (h : d.fill path c result = (.error fault, d')) :
    (∃ e, d.fileLocation path = .error e ∧ fault = refusal "create file" path e.message ∧ d' = d) ∨
      ∃ l, d.fileLocation path = .ok l ∧ result = .error fault ∧ d' = d.put l (.file c) := by
  rw [fill, writeFile] at h
  cases hplace : d.fileLocation path with
  | error e =>
    rw [hplace] at h
    cases h
    exact .inl ⟨e, rfl, rfl, rfl⟩
  | ok l =>
    rw [hplace] at h
    cases h
    exact .inr ⟨l, rfl, rfl, rfl⟩

theorem unitFails_of_writeUnit {fate : WriteFate} {fault : Fault}
    (h : d.writeUnit directory unit fate = (.error fault, d')) :
    UnitFails d directory unit fate fault d' := by
  cases fate with
  | taken =>
    obtain ⟨e, hplace, rfl, rfl⟩ | ⟨l, -, hresult, -⟩ := fill_eq_error h
    · exact .unplaced hplace
    · cases hresult
  | refused reason =>
    cases h
    exact .unopened
  | stopped count reason =>
    obtain ⟨e, hplace, rfl, rfl⟩ | ⟨l, hplace, hresult, rfl⟩ := fill_eq_error h
    · exact .unplaced hplace
    · cases hresult
      exact .stopped hplace
  | unflushed reason =>
    obtain ⟨e, hplace, rfl, rfl⟩ | ⟨l, hplace, hresult, rfl⟩ := fill_eq_error h
    · exact .unplaced hplace
    · cases hresult
      exact .unflushed hplace

/-- A failure comes with a unit: those before it are written, and it fails then. -/
theorem writeEach_eq_error {fates : List WriteFate} {fault : Fault}
    (h : writeEach directory d units fates = (.error fault, d')) :
    ∃ before unit after d₁, units = before ++ unit :: after ∧
      writeEach directory d before fates = (.ok (), d₁) ∧
        d₁.writeUnit directory unit (fates.getD before.length .taken) = (.error fault, d') := by
  induction units generalizing d fates with
  | nil => cases h
  | cons unit units ih =>
    rw [writeEach] at h
    split at h
    · next d₁ hunit =>
      obtain ⟨before, failed, after, d₂, rfl, hbefore, hfailed⟩ := ih h
      refine ⟨unit :: before, failed, after, d₂, rfl, ?_, ?_⟩
      · rw [writeEach, hunit]
        exact hbefore
      · cases fates <;> exact hfailed
    · refine ⟨[], unit, units, d, rfl, rfl, ?_⟩
      cases fates <;> exact h

/-! ## Units that are written -/

/-- The unit is the last of a list with its place there. -/
def IsLastAt (d : Disk) (directory : String) (units : List GeneratedUnit) (l : Location)
    (last : GeneratedUnit) : Prop :=
  ∃ before after, units = before ++ last :: after ∧
    d.target (Path.join directory last.name) = l ∧ ¬ d.IsPlaceOf directory after l

theorem exists_isLastAt (h : d.IsPlaceOf directory units l) :
    ∃ last, d.IsLastAt directory units l last := by
  induction units with
  | nil =>
    obtain ⟨unit, hunit, -⟩ := h
    cases hunit
  | cons unit units ih =>
    by_cases hlater : d.IsPlaceOf directory units l
    · obtain ⟨last, before, after, rfl, hlast, hafter⟩ := ih hlater
      exact ⟨last, unit :: before, after, rfl, hlast, hafter⟩
    · obtain ⟨first, hfirst, htarget⟩ := h
      rcases List.mem_cons.mp hfirst with rfl | hmem
      · exact ⟨first, [], units, rfl, htarget, hlater⟩
      · exact (hlater ⟨first, hmem, htarget⟩).elim

/-- If no unit behind the first one of a list has a place, only the first can have it. -/
theorem eq_of_split {middle : List GeneratedUnit} {last last' : GeneratedUnit}
    {after' : List GeneratedUnit} (hsplit : last :: after = middle ++ last' :: after')
    (hlast' : d.target (Path.join directory last'.name) = l)
    (hafter : ¬ d.IsPlaceOf directory after l) : last = last' := by
  cases middle with
  | nil => exact (List.cons.inj hsplit).1
  | cons first middle =>
    obtain ⟨rfl, rfl⟩ := List.cons.inj hsplit
    exact (hafter ⟨last', List.mem_append_right middle List.mem_cons_self, hlast'⟩).elim

/-- Where several units have their place, only one is the last. -/
theorem IsLastAt.unique {last last' : GeneratedUnit} (h : d.IsLastAt directory units l last)
    (h' : d.IsLastAt directory units l last') : last = last' := by
  obtain ⟨before, after, rfl, hlast, hafter⟩ := h
  obtain ⟨before', after', hsplit, hlast', hafter'⟩ := h'
  rcases List.append_eq_append_iff.mp hsplit with ⟨middle, -, hrest⟩ | ⟨middle, -, hrest⟩
  · exact eq_of_split hrest hlast' hafter
  · exact (eq_of_split hrest hlast hafter').symm

/-- The directory is there.  Where the path of a unit leads there is a file with the text of the
last unit whose path leads there.  Every other location keeps its entry, unless the directory was
made there or on the way to it. -/
structure Written (directory : String) (units : List GeneratedUnit) (d d' : Disk) : Prop where
  made : d'.isDirectory (d'.start directory) (steps directory) = true
  held : ∀ unit ∈ units, ∃ last,
    d.IsLastAt directory units (d.target (Path.join directory unit.name)) last ∧
      d'.find (Path.join directory unit.name) =
        .ok (d.target (Path.join directory unit.name), .file (.text last.text))
  others : KeepsOthers (d.IsPlaceOf directory units) directory d d'

/-- Where several units have their place, the text of the last one stays. -/
theorem entry?_of_isLastAt {placed : List (GeneratedUnit × Location)} {last : GeneratedUnit}
    (hplace : ∀ p ∈ placed, p.2 = d.target (Path.join directory p.1.name)) (hl : l ≠ [])
    (h : d.IsLastAt directory (placed.map Prod.fst) l last) :
    entry? (d'.putAll (placed.map fileOf)) l = some (.file (.text last.text)) := by
  obtain ⟨before, after, hunits, rfl, hafter⟩ := h
  obtain ⟨front, rest, rfl, rfl, hrest⟩ := List.map_eq_append_iff.mp hunits
  obtain ⟨p, back, rfl, rfl, rfl⟩ := List.map_eq_cons_iff.mp hrest
  obtain ⟨hp, hlater⟩ := List.forall_mem_cons.mp (List.forall_mem_append.mp hplace).2
  have hback : p.2 ∉ (back.map fileOf).map Prod.fst := by
    rw [List.map_map, List.mem_map]
    rintro ⟨later, hmem, hsame⟩
    refine hafter ⟨later.1, List.mem_map_of_mem hmem, ?_⟩
    rw [← hlater later hmem, ← hp]
    exact hsame
  rw [← hp] at hl ⊢
  rw [List.map_append, List.map_cons]
  exact entry?_putAll_of_last hl hback

theorem written_of_writeUnits {fates : WriteFates}
    (h : d.writeUnits directory units fates = (.ok (), d')) :
    Written directory units d d' := by
  have hkeeps := keepsOthers_of_writeUnits h
  have hmade := isDirectory_of_writeUnits h
  obtain ⟨d₁, placed, hmakes, rfl, hplaced, rfl⟩ := writeUnits_eq_ok h
  have hsame := sameDirectories_of_placed hplaced
  have hplace : ∀ p ∈ placed, p.2 = d.target (Path.join directory p.1.name) := by
    intro p hp
    rw [(hplaced p hp).eq_target, target, target, start, start, hmakes.grows.current]
  refine ⟨hmade, List.forall_mem_map.mpr fun p hp => ?_, hkeeps⟩
  have hmem : d.IsPlaceOf directory (placed.map Prod.fst) p.2 :=
    ⟨p.1, List.mem_map_of_mem hp, (hplace p hp).symm⟩
  obtain ⟨last, hlast⟩ := exists_isLastAt hmem
  have hfree := (fileLocation_eq_ok.mp (hplaced p hp)).2.2.2
  have hentry : entry? (d₁.putAll (placed.map fileOf)) p.2 = some (.file (.text last.text)) :=
    entry?_of_isLastAt hplace (ne_nil_of_not_directory hfree) hlast
  rw [← hplace p hp]
  refine ⟨last, hlast, ?_⟩
  exact find_of_fileLocation (hplaced p hp) hentry hsame.current fun k => (hsame.directory k).mpr

/-! ## Outcomes -/

/-- What writing units comes to, with the disk that it leaves.  A fault names the path that it is
about: that of the first unit that fails, or that of the directory. -/
inductive WriteOutcome (d : Disk) (directory : String) (units : List GeneratedUnit)
    (fates : WriteFates) : Except Fault Unit × Disk → Prop
  | written {d' : Disk} (all : Written directory units d d') :
      WriteOutcome d directory units fates (.ok (), d')
  /-- The units before the one that fails leave a disk as if they were all there is. -/
  | unitFailed {d₁ d' : Disk} {before after : List GeneratedUnit} {unit : GeneratedUnit}
      {fault : Fault} (split : units = before ++ unit :: after)
      (alone : d.writeUnits directory before fates = (.ok (), d₁))
      (earlier : Written directory before d d₁)
      (fails : UnitFails d₁ directory unit (fates.units.getD before.length .taken) fault d') :
      WriteOutcome d directory units fates (.error fault, d')
  /-- At most there are new directories on the way to the one that cannot be made. -/
  | directoryRefused {d' : Disk} {e : DiskError} (refused : d.makeAll directory = (.error e, d'))
      (missing : d'.isDirectory (d'.start directory) (steps directory) = false)
      (kept : ∀ l, KeptAt (d.OnTheWay directory) d d' l) :
      WriteOutcome d directory units fates
        (.error (refusal "create directory" directory e.message), d')
  /-- The host fails on the way to the directory. -/
  | directoryFailed {d' : Disk} {count : Nat} {reason : String}
      (fate : fates.directory = .refused count reason)
      (kept : ∀ l, KeptAt (d.OnTheWay directory) d d' l) :
      WriteOutcome d directory units fates
        (.error (refusal "create directory" directory reason), d')

theorem directoryOutcome {fates : WriteFates} {fault : Fault}
    (h : d.makeRoot directory fates.directory = (.error fault, d')) :
    WriteOutcome d directory units fates (.error fault, d') := by
  have hgrows := grows_of_makeRoot d directory fates.directory
  rw [h] at hgrows
  cases hfate : fates.directory with
  | taken =>
    rw [hfate, makeRoot] at h
    split at h
    · cases h
    · next e d₁ hrefused =>
      cases h
      exact .directoryRefused hrefused (makeAll_again hrefused).1 hgrows.entries
  | refused count reason =>
    rw [hfate] at h
    cases h
    exact .directoryFailed hfate hgrows.entries

theorem writeOutcome (d : Disk) (directory : String) (units : List GeneratedUnit)
    (fates : WriteFates) :
    WriteOutcome d directory units fates (d.writeUnits directory units fates) := by
  cases hwrite : d.writeUnits directory units fates with
  | mk result d' =>
  cases result with
  | ok done => exact .written (written_of_writeUnits hwrite)
  | error fault =>
    rw [writeUnits] at hwrite
    split at hwrite
    · next d₁ hmade =>
      obtain ⟨before, unit, after, d₂, rfl, hbefore, hunit⟩ := writeEach_eq_error hwrite
      have halone : d.writeUnits directory before fates = (.ok (), d₂) := by
        rw [writeUnits, hmade]
        exact hbefore
      exact .unitFailed rfl halone (written_of_writeUnits halone) (unitFails_of_writeUnit hunit)
    · exact directoryOutcome hwrite

/-- Also a directory that cannot be made is left as the first attempt left it. -/
theorem disk_writeUnits_twice (d : Disk) (directory : String) (units : List GeneratedUnit)
    (fates : WriteFates) :
    let first := d.writeUnits directory units fates
    (first.2.writeUnits directory units fates).2 = first.2 := by
  intro first
  obtain ⟨result, d', hroot⟩ : ∃ result d', d.makeRoot directory fates.directory = (result, d') :=
    ⟨_, _, rfl⟩
  cases result with
  | ok done => exact (writeUnits_twice hroot units).2
  | error fault =>
    have hfirst : first.2 = d' := by
      simp only [first, writeUnits, hroot]
    obtain ⟨fault', hagain⟩ := makeRoot_again hroot
    rw [hfirst, writeUnits, hagain]

end ServiceStubs.Disk

namespace ServiceStubs

open Disk

/-- Units are all written, or up to the first that fails, or none is because their directory cannot
be made.  A second attempt leaves the disk as the first did if it meets with the same fates, or if
both go well. -/
theorem units_written (d : Disk) (directory : String) (units : List GeneratedUnit)
    (fates : WriteFates) :
    let first := d.writeUnits directory units fates
    WriteOutcome d directory units fates first ∧
      (first.2.writeUnits directory units fates).2 = first.2 ∧
      ∀ later, first.1 = .ok () → (first.2.writeUnits directory units later).1 = .ok () →
        (first.2.writeUnits directory units later).2 = first.2 := by
  intro first
  refine ⟨writeOutcome d directory units fates, disk_writeUnits_twice d directory units fates,
    fun later hfirst hlater => ?_⟩
  have hagain := writeUnits_again (writeUnits_of_ok (Prod.ext hfirst rfl : first = (.ok (), first.2)))
  have hsecond := writeUnits_of_ok
    (Prod.ext hlater rfl : first.2.writeUnits directory units later = (.ok (), _))
  exact (Prod.mk.inj (hsecond.symm.trans hagain)).2

/-- Two units for one file that was there, written twice by a host that takes all texts. -/
theorem units_written_over :
    let d : Disk :=
      ⟨[(["work"], .directory), (["out", "work"], .directory),
        (["a.rs", "out", "work"], .file (.text "old"))], ["work"]⟩
    let units : List GeneratedUnit := [⟨"a.rs", "one"⟩, ⟨"./a.rs", "two"⟩]
    let first := d.writeUnits "out" units
    first.1 = .ok () ∧ first.2.readText? "out/a.rs" = some "two" ∧
      (first.2.writeUnits "out" units ⟨.taken, [.taken]⟩).1 = .ok () ∧
        (first.2.writeUnits "out" units ⟨.taken, [.taken]⟩).2 = first.2 := by
  intro d units first
  have hfirst : first.1 = .ok () := rfl
  have hlater : (first.2.writeUnits "out" units ⟨.taken, [.taken]⟩).1 = .ok () := rfl
  exact ⟨hfirst, by decide, hlater, (units_written d "out" units {}).2.2 _ hfirst hlater⟩

/-- A host that runs out of room takes away what was in the file of the unit and leaves the
beginning of its text there.  When there is room again, the same units leave another disk. -/
theorem units_written_in_part :
    let d : Disk :=
      ⟨[(["work"], .directory), (["out", "work"], .directory),
        (["a.rs", "out", "work"], .file (.text "old"))], ["work"]⟩
    let units : List GeneratedUnit := [⟨"a.rs", "new text"⟩]
    let fate : WriteFate := .stopped 3 "No space left on device (os error 28)"
    let first := d.writeUnits "out" units ⟨.taken, [fate]⟩
    let second := first.2.writeUnits "out" units
    d.writeUnits "out" [] = (.ok (), d) ∧ d.readText? "out/a.rs" = some "old" ∧
      first.1 = .error
        (.io "Failed to write file out/a.rs: No space left on device (os error 28)") ∧
      first.2.readText? "out/a.rs" = some "new" ∧ second.1 = .ok () ∧
      second.2.readText? "out/a.rs" = some "new text" := by
  decide

end ServiceStubs
