import ServiceStubs.Disk.Sink
import ServiceStubs.Proofs.Disk.Making
import ServiceStubs.Proofs.Naming

/-!
# Writing units

Writing units one after another changes what is in the places of their files and nothing else: no
directory comes or goes, so the places are known before the first unit is written.  A unit that is
named like a file has its place in the directory itself.
-/

namespace ServiceStubs.Disk

variable {d d' : Disk} {l : Location} {directory name : String}

/-! ## Paths behind a directory -/

/-- The location that a path leads to, if it leads anywhere. -/
def target (d : Disk) (path : String) : Location := walk (d.start path) (steps path)

theorem eq_target_of_find {path : String} {e : Entry} (h : d.find path = .ok (l, e)) :
    l = d.target path :=
  eq_walk_of_follow (find_eq_ok.mp h).2.1

theorem steps_of_toList {path : String} {s t : List Char} (h : path.toList = s ++ '/' :: t) :
    steps path = (Naming.splitAtAny (· == '/') s).filterMap step? ++
      (Naming.splitAtAny (· == '/') t).filterMap step? := by
  rw [steps, h, Naming.splitAtAny_append rfl, List.filterMap_append]

/-- A relative path is put behind the directory and one slash, unless that is empty. -/
theorem join_cases (h : isAbsolute name = false) (directory : String) :
    (directory = "" ∧ Path.join directory name = name) ∨
      ∃ front, (Path.join directory name).toList = front ++ '/' :: name.toList ∧
        directory.toList ≠ [] ∧ (directory.toList = front ∨ directory.toList = front ++ ['/']) := by
  have hhead : name.toList.head? ≠ some '/' := ne_of_beq_false h
  rw [Path.join, if_neg hhead]
  split
  · next hnoslash =>
    rcases Bool.or_eq_true_iff.mp hnoslash with hempty | hlast
    · obtain rfl := String.isEmpty_iff.mp hempty
      exact .inl ⟨rfl, String.empty_append⟩
    · right
      obtain ⟨front, hfront⟩ := List.getLast?_eq_some_iff.mp (of_decide_eq_true hlast)
      refine ⟨front, ?_, ?_, .inr hfront⟩
      · rw [String.toList_append, hfront, List.append_assoc, List.singleton_append]
      · rw [hfront]
        exact List.append_ne_nil_of_right_ne_nil front (List.cons_ne_nil _ _)
  · next hnoslash =>
    right
    refine ⟨directory.toList, ?_, ?_, .inl rfl⟩
    · rw [String.toList_append, String.toList_append, List.append_assoc]
      rfl
    · intro hnil
      obtain rfl : directory = "" := String.toList_injective hnil
      exact hnoslash rfl

theorem steps_join (h : isAbsolute name = false) (directory : String) :
    steps (Path.join directory name) = steps directory ++ steps name := by
  rcases join_cases h directory with ⟨rfl, hjoin⟩ | ⟨front, hjoin, -, hdirectory | hdirectory⟩
  · rw [hjoin]
    rfl
  · rw [steps_of_toList hjoin, ← hdirectory, steps, steps]
  · rw [steps_of_toList hjoin, steps_of_toList hdirectory, steps]
    simp [Naming.splitAtAny, step?]

theorem isAbsolute_join (h : isAbsolute name = false) (directory : String) :
    isAbsolute (Path.join directory name) = isAbsolute directory := by
  rcases join_cases h directory with ⟨rfl, hjoin⟩ | ⟨front, hjoin, hne, hdirectory⟩
  · rw [hjoin, h]
    rfl
  · have hhead : (Path.join directory name).toList.head? = directory.toList.head? := by
      rw [hjoin]
      cases front with
      | nil =>
        rcases hdirectory with hdirectory | hdirectory
        · exact absurd hdirectory hne
        · rw [hdirectory]
          rfl
      | cons c front => rcases hdirectory with hdirectory | hdirectory <;> rw [hdirectory] <;> rfl
    rw [isAbsolute, isAbsolute, hhead]

/-- A relative path leads on from the directory. -/
theorem target_join (h : isAbsolute name = false) (d : Disk) (directory : String) :
    d.target (Path.join directory name) = walk (d.target directory) (steps name) := by
  rw [target, steps_join h, walk_append, target, start, start, isAbsolute_join h]

/-! ## Files of a directory -/

theorem beq_slash_eq_false (h : '/' ∉ name.toList) : ∀ c ∈ name.toList, (c == '/') = false := by
  intro c hc
  refine beq_false_of_ne ?_
  rintro rfl
  exact h hc

/-- The name can be that of a file in a directory. -/
structure IsFileName (name : String) : Prop where
  slash : '/' ∉ name.toList
  proper : name ∉ ["", ".", ".."]

namespace IsFileName

theorem step?_toList (h : IsFileName name) : step? name.toList = some (.named name) := by
  have hproper (special : String) (hname : name.toList = special.toList)
      (hspecial : special ∈ ["", ".", ".."]) : False :=
    h.proper (String.toList_injective hname ▸ hspecial)
  unfold step?
  split
  · next hname => exact (hproper "" hname (by decide)).elim
  · next hname => exact (hproper "." hname (by decide)).elim
  · next hname => exact (hproper ".." hname (by decide)).elim
  · rw [String.ofList_toList]

theorem steps_eq (h : IsFileName name) : steps name = [.named name] := by
  rw [steps, Naming.splitAtAny_of_piece (beq_slash_eq_false h.slash),
    List.filterMap_cons_some h.step?_toList, List.filterMap_nil]

theorem isAbsolute_eq_false (h : IsFileName name) : isAbsolute name = false :=
  beq_false_of_ne fun hhead => h.slash (List.mem_of_head? hhead)

theorem target_join (h : IsFileName name) (d : Disk) (directory : String) :
    d.target (Path.join directory name) = name :: d.target directory := by
  rw [Disk.target_join h.isAbsolute_eq_false, h.steps_eq]
  rfl

end IsFileName

/-! ## Files -/

/-- Puts files one after another. -/
def putAll (d : Disk) (files : List (Location × Content)) : Disk :=
  files.foldl (fun d file => d.put file.1 (.file file.2)) d

theorem putAll_cons (d : Disk) (file : Location × Content) (files : List (Location × Content)) :
    d.putAll (file :: files) = (d.put file.1 (.file file.2)).putAll files := rfl

theorem putAll_append (d : Disk) (files more : List (Location × Content)) :
    d.putAll (files ++ more) = (d.putAll files).putAll more :=
  List.foldl_append

theorem entry?_putAll_of_not_mem {files : List (Location × Content)}
    (hl : l ∉ files.map Prod.fst) : entry? (d.putAll files) l = d.entry? l := by
  induction files generalizing d with
  | nil => rfl
  | cons file files ih =>
    rw [List.map_cons, List.mem_cons, not_or] at hl
    obtain ⟨hfile, hfiles⟩ := hl
    rw [putAll_cons, ih hfiles, entry?_put_of_ne d hfile]

/-- The last file that is put at a location stays. -/
theorem entry?_putAll_of_last {before after : List (Location × Content)} {c : Content}
    (hl : l ≠ []) (hafter : l ∉ after.map Prod.fst) :
    entry? (d.putAll (before ++ (l, c) :: after)) l = some (.file c) := by
  rw [putAll_append, putAll_cons, entry?_putAll_of_not_mem hafter, entry?_put_self _ hl]

theorem entry?_putAll_of_mem {files : List (Location × Content)} {c : Content} (hl : l ≠ [])
    (hmem : (l, c) ∈ files) (hnodup : (files.map Prod.fst).Nodup) :
    entry? (d.putAll files) l = some (.file c) := by
  obtain ⟨before, after, rfl⟩ := List.append_of_mem hmem
  rw [List.map_append, List.map_cons] at hnodup
  exact entry?_putAll_of_last hl (List.nodup_cons.mp (List.nodup_append.mp hnodup).2.1).1

theorem IsUnique.putAll (h : d.IsUnique) (files : List (Location × Content)) :
    (d.putAll files).IsUnique := by
  induction files generalizing d with
  | nil => exact h
  | cons file files ih => exact ih (h.put file.1 (.file file.2))

theorem SameDirectories.putAll {files : List (Location × Content)}
    (h : ∀ file ∈ files, d.entry? file.1 ≠ some .directory) :
    SameDirectories d (d.putAll files) := by
  induction files generalizing d with
  | nil => exact .refl d
  | cons file files ih =>
    obtain ⟨hfile, hfiles⟩ := List.forall_mem_cons.mp h
    have hput := SameDirectories.put hfile file.2
    refine hput.trans (ih fun other hother => ?_)
    rw [ne_eq, hput.directory]
    exact hfiles other hother

/-! ## Units -/

/-- A unit and the place of its file. -/
def IsPlaced (d : Disk) (directory : String) (p : GeneratedUnit × Location) : Prop :=
  d.fileLocation (Path.join directory p.1.name) = .ok p.2

theorem IsPlaced.eq_target {p : GeneratedUnit × Location} (h : IsPlaced d directory p) :
    p.2 = d.target (Path.join directory p.1.name) :=
  eq_walk_of_follow (fileLocation_eq_ok.mp h).2.2.1

/-- The file of a unit at its place. -/
def fileOf (p : GeneratedUnit × Location) : Location × Content := (p.2, .text p.1.text)

/-- Units are not put in the place of directories. -/
theorem sameDirectories_of_placed {placed : List (GeneratedUnit × Location)}
    (h : ∀ p ∈ placed, IsPlaced d directory p) :
    SameDirectories d (d.putAll (placed.map fileOf)) :=
  .putAll (List.forall_mem_map.mpr fun p hp => (fileLocation_eq_ok.mp (h p hp)).2.2.2)

theorem fill_eq_ok {path : String} {c : Content} {result : Except Fault Unit} :
    d.fill path c result = (.ok (), d') ↔
      result = .ok () ∧ ∃ l, d.fileLocation path = .ok l ∧ d' = d.put l (.file c) := by
  simp only [fill, writeFile]
  cases d.fileLocation path with
  | error e => simp [bind, Except.bind]
  | ok l => simp [bind, Except.bind, pure, Except.pure, eq_comm]

/-- A unit is written only if its text is taken. -/
theorem writeUnit_eq_ok {unit : GeneratedUnit} {fate : WriteFate} :
    d.writeUnit directory unit fate = (.ok (), d') ↔
      fate = .taken ∧ ∃ l, IsPlaced d directory (unit, l) ∧
        d' = d.put l (.file (.text unit.text)) := by
  cases fate with
  | taken => simp [writeUnit, fill_eq_ok, IsPlaced]
  | refused reason => simp [writeUnit]
  | stopped count reason => simp [writeUnit, fill_eq_ok]
  | unflushed reason => simp [writeUnit, fill_eq_ok]

/-- By induction on the units: the first write leaves the directories, so the others have the
places that they had before. -/
theorem writeEach_eq_ok {units : List GeneratedUnit} {fates : List WriteFate}
    (h : writeEach directory d units fates = (.ok (), d')) :
    ∃ placed : List (GeneratedUnit × Location), placed.map Prod.fst = units ∧
      (∀ p ∈ placed, IsPlaced d directory p) ∧ d' = d.putAll (placed.map fileOf) := by
  induction units generalizing d fates with
  | nil =>
    cases h
    exact ⟨[], rfl, List.forall_mem_nil _, rfl⟩
  | cons unit units ih =>
    rw [writeEach] at h
    split at h
    · next d₁ hunit =>
      obtain ⟨-, l, hl, rfl⟩ := writeUnit_eq_ok.mp hunit
      obtain ⟨placed, rfl, hplaced, rfl⟩ := ih h
      have hsame : SameDirectories d _ :=
        .put (fileLocation_eq_ok.mp hl).2.2.2 (.text unit.text)
      refine ⟨(unit, l) :: placed, rfl, List.forall_mem_cons.mpr ⟨hl, ?_⟩, rfl⟩
      exact fun p hp => hsame.fileLocation.mp (hplaced p hp)
    · next hfailed =>
      exact (hfailed _ h).elim

theorem makeRoot_eq_ok {fate : DirectoryFate} :
    d.makeRoot directory fate = (.ok (), d') ↔
      fate = .taken ∧ d.makeAll directory = (.ok (), d') := by
  cases fate with
  | taken =>
    rw [makeRoot]
    rcases d.makeAll directory with ⟨e | _, d₁⟩ <;> simp
  | refused count reason => simp [makeRoot]

theorem makeRoot_of_writeUnits {units : List GeneratedUnit} {fates : WriteFates}
    (h : d.writeUnits directory units fates = (.ok (), d')) :
    ∃ d₁, d.makeRoot directory fates.directory = (.ok (), d₁) ∧
      writeEach directory d₁ units fates.units = (.ok (), d') := by
  rw [writeUnits] at h
  split at h
  · next d₁ hmade => exact ⟨d₁, hmade, h⟩
  · next hrefused => exact (hrefused _ h).elim

/-- The directory is made, then the units are put into their places. -/
theorem writeUnits_eq_ok {units : List GeneratedUnit} {fates : WriteFates}
    (h : d.writeUnits directory units fates = (.ok (), d')) :
    ∃ (d₁ : Disk) (placed : List (GeneratedUnit × Location)),
      Makes (d.start directory) (steps directory) d (.ok (), d₁) ∧ placed.map Prod.fst = units ∧
        (∀ p ∈ placed, IsPlaced d₁ directory p) ∧ d' = d₁.putAll (placed.map fileOf) := by
  obtain ⟨d₁, hroot, heach⟩ := makeRoot_of_writeUnits h
  obtain ⟨-, hmade⟩ := makeRoot_eq_ok.mp hroot
  obtain ⟨placed, hunits, hplaced, hput⟩ := writeEach_eq_ok heach
  exact ⟨d₁, placed, hmade ▸ makes_of_makeAll d directory, hunits, hplaced, hput⟩

/-- Where all units are written, it is as if no write could fail. -/
theorem writeEach_of_ok {units : List GeneratedUnit} {fates : List WriteFate}
    (h : writeEach directory d units fates = (.ok (), d')) :
    writeEach directory d units [] = (.ok (), d') := by
  induction units generalizing d fates with
  | nil => exact h
  | cons unit units ih =>
    rw [writeEach] at h
    split at h
    · next d₁ hunit =>
      have htaken : d.writeUnit directory unit .taken = (.ok (), d₁) :=
        writeUnit_eq_ok.mpr ⟨rfl, (writeUnit_eq_ok.mp hunit).2⟩
      rw [writeEach, List.headD_nil, htaken]
      exact ih h
    · next hfailed => exact (hfailed _ h).elim

theorem writeUnits_of_ok {units : List GeneratedUnit} {fates : WriteFates}
    (h : d.writeUnits directory units fates = (.ok (), d')) :
    d.writeUnits directory units = (.ok (), d') := by
  obtain ⟨d₁, hroot, heach⟩ := makeRoot_of_writeUnits h
  rw [writeUnits, makeRoot_eq_ok.mpr ⟨rfl, (makeRoot_eq_ok.mp hroot).2⟩]
  exact writeEach_of_ok heach

/-- All but some places are as they were, apart from directories that are new. -/
structure KeepsOthers (places : Location → Prop) (directory : String) (d d' : Disk) : Prop where
  current : d'.current = d.current
  unique : d.IsUnique → d'.IsUnique
  directories : ∀ l, d.entry? l = some .directory → d'.entry? l = some .directory
  entries : ∀ l, ¬ places l → KeptAt (d.OnTheWay directory) d d' l

/-- The place of a unit in a directory. -/
def IsPlaceOf (d : Disk) (directory : String) (units : List GeneratedUnit) (l : Location) : Prop :=
  ∃ unit ∈ units, d.target (Path.join directory unit.name) = l

theorem keepsOthers_of_writeUnits {units : List GeneratedUnit} {fates : WriteFates}
    (h : d.writeUnits directory units fates = (.ok (), d')) :
    KeepsOthers (d.IsPlaceOf directory units) directory d d' := by
  obtain ⟨d₁, placed, hmakes, rfl, hplaced, rfl⟩ := writeUnits_eq_ok h
  have hsame := sameDirectories_of_placed hplaced
  refine ⟨hsame.current.trans hmakes.grows.current, fun hunique => ?_, fun l hl => ?_,
    fun l hl => ?_⟩
  · exact (hmakes.grows.unique hunique).putAll _
  · exact (hsame.directory l).mpr (hmakes.grows.entry?_of_some hl)
  · have hnot : l ∉ (placed.map fileOf).map Prod.fst := by
      rw [List.map_map, List.mem_map]
      rintro ⟨p, hp, rfl⟩
      refine hl ⟨p.1, List.mem_map_of_mem hp, ?_⟩
      rw [target, start, ← hmakes.grows.current]
      exact (hplaced p hp).eq_target.symm
    rw [KeptAt, entry?_putAll_of_not_mem hnot]
    exact hmakes.grows.entries l

/-- Every unit is in a file of its name in the directory.  Every other location keeps its entry,
unless the directory was made there or on the way to it. -/
structure HoldsUnits (directory : String) (units : List GeneratedUnit) (d d' : Disk) : Prop where
  held : ∀ unit ∈ units, d'.find (Path.join directory unit.name) =
    .ok (unit.name :: d.target directory, .file (.text unit.text))
  others : ∀ l, l ∉ units.map (fun unit => unit.name :: d.target directory) →
    KeptAt (d.OnTheWay directory) d d' l

theorem holdsUnits_of_writeUnits {units : List GeneratedUnit} {fates : WriteFates}
    (hnames : ∀ unit ∈ units, IsFileName unit.name)
    (hnodup : (units.map GeneratedUnit.name).Nodup)
    (h : d.writeUnits directory units fates = (.ok (), d')) : HoldsUnits directory units d d' := by
  have hkeeps := keepsOthers_of_writeUnits h
  obtain ⟨d₁, placed, hmakes, rfl, hplaced, rfl⟩ := writeUnits_eq_ok h
  have htarget : d₁.target directory = d.target directory := by
    rw [target, target, start, start, hmakes.grows.current]
  have hplace : ∀ p ∈ placed, p.2 = p.1.name :: d.target directory := by
    intro p hp
    rw [← htarget, ← (hnames p.1 (List.mem_map_of_mem hp)).target_join]
    exact (hplaced p hp).eq_target
  -- All places are in the one directory, so units of different names have different places.
  have hlocations : (placed.map fileOf).map Prod.fst =
      (placed.map Prod.fst).map (fun unit => unit.name :: d.target directory) := by
    rw [List.map_map, List.map_map]
    exact List.map_congr_left hplace
  have hdistinct : ((placed.map fileOf).map Prod.fst).Nodup := by
    have hmap : (((placed.map Prod.fst).map GeneratedUnit.name).map
        (· :: d.target directory)).Nodup :=
      List.Pairwise.map _ (fun name name' hne heq => hne (List.cons.inj heq).1) hnodup
    rw [List.map_map] at hmap
    rw [hlocations]
    exact hmap
  have hsame := sameDirectories_of_placed hplaced
  constructor
  · refine List.forall_mem_map.mpr fun p hp => ?_
    rw [← hplace p hp]
    have hfree := (fileLocation_eq_ok.mp (hplaced p hp)).2.2.2
    have hentry := entry?_putAll_of_mem (d := d₁) (ne_nil_of_not_directory hfree)
      (List.mem_map_of_mem hp : fileOf p ∈ placed.map fileOf) hdistinct
    exact find_of_fileLocation (hplaced p hp) hentry hsame.current fun k => (hsame.directory k).mpr
  · intro l hl
    refine hkeeps.entries l ?_
    rintro ⟨unit, hunit, rfl⟩
    rw [(hnames unit hunit).target_join] at hl
    exact hl (List.mem_map_of_mem hunit)

end ServiceStubs.Disk
