import ServiceStubs.Proofs.Build.Effects
import ServiceStubs.Proofs.Disk.Outcomes

/-!
# Writing outside the directory

Nothing keeps a unit inside the directory that units are written into.  Outside it a file changes
only through a unit whose name starts at the top of the tree or climbs above the directory, and
wherever such a name leads the unit is written.  Among the units of a run only that of the module
can have such a name.
-/

namespace ServiceStubs.Disk

variable {d d' : Disk} {l m : Location} {directory name : String}
variable {units : List GeneratedUnit}

/-! ## Inside and outside -/

/-- The location is that of a directory, or lies below it. -/
def IsWithin (d : Disk) (directory : String) (l : Location) : Prop := d.target directory <:+ l

instance (d : Disk) (directory : String) (l : Location) : Decidable (d.IsWithin directory l) :=
  inferInstanceAs (Decidable (_ <:+ _))

/-- No file outside a directory is new, and none has another content. -/
def KeepsOutside (directory : String) (d d' : Disk) : Prop :=
  ∀ l c, d'.entry? l = some (.file c) → d.entry? l = some (.file c) ∨ d.IsWithin directory l

/-! ## Names that leave -/

/-- Whether steps that start so many levels below a directory lead above it on their way. -/
def climbs : Nat → List Step → Bool
  | _, [] => false
  | n, .here :: ss => climbs n ss
  | 0, .above :: _ => true
  | n + 1, .above :: ss => climbs n ss
  | n, .named _ :: ss => climbs (n + 1) ss

/-- Where the name leads does not have to be in the directory that it is put behind. -/
def Leaves (name : String) : Prop := isAbsolute name = true ∨ climbs 0 (steps name) = true

instance (name : String) : Decidable (Leaves name) := inferInstanceAs (Decidable (_ ∨ _))

/-- By induction on the steps: the names on the way up to the directory stay at the end. -/
theorem suffix_walk {ss : List Step} (front : Location) (h : climbs front.length ss = false) :
    l <:+ walk (front ++ l) ss := by
  induction ss generalizing front with
  | nil => exact List.suffix_append front l
  | cons s ss ih =>
    cases s with
    | here => exact ih front h
    | above =>
      cases front with
      | nil => cases h
      | cons name front => exact ih front h
    | named name => exact ih (name :: front) h

theorem isWithin_of_not_leaves (h : ¬ Leaves name) (d : Disk) (directory : String) :
    d.IsWithin directory (d.target (Path.join directory name)) := by
  rw [Leaves, not_or, Bool.not_eq_true, Bool.not_eq_true] at h
  obtain ⟨hrelative, hclimbs⟩ := h
  rw [IsWithin, target_join hrelative]
  exact suffix_walk [] hclimbs

theorem climbs_eq_false {ss : List Step} (h : .above ∉ ss) (n : Nat) : climbs n ss = false := by
  induction ss generalizing n with
  | nil => rfl
  | cons s ss ih =>
    rw [List.mem_cons, not_or] at h
    obtain ⟨hfirst, hrest⟩ := h
    cases s with
    | here => exact ih hrest n
    | above => exact absurd rfl hfirst
    | named name => exact ih hrest (n + 1)

/-! ## What is written where -/

/-- A location is kept, or it holds one of the units. -/
theorem Written.kept_or_held (h : Written directory units d d') (l : Location) :
    KeptAt (d.OnTheWay directory) d d' l ∨
      ∃ unit ∈ units, d.target (Path.join directory unit.name) = l ∧
        d'.entry? l = some (.file (.text unit.text)) := by
  by_cases hplace : d.IsPlaceOf directory units l
  · right
    obtain ⟨unit, hunit, rfl⟩ := hplace
    obtain ⟨last, ⟨before, after, rfl, hlast, -⟩, hfind⟩ := h.held unit hunit
    refine ⟨last, List.mem_append_right before List.mem_cons_self, hlast, ?_⟩
    exact (find_eq_ok.mp hfind).2.2.1
  · exact .inl (h.others.entries l hplace)

theorem kept_or_held (d : Disk) (directory : String) (units : List GeneratedUnit) (l : Location) :
    KeptAt (d.OnTheWay directory) d (d.writeUnits directory units).2 l ∨
      ∃ unit ∈ units, d.target (Path.join directory unit.name) = l ∧
        entry? (d.writeUnits directory units).2 l = some (.file (.text unit.text)) := by
  have houtcome := writeOutcome d directory units {}
  generalize d.writeUnits directory units = result at houtcome ⊢
  cases houtcome with
  | written hall => exact hall.kept_or_held l
  | unitFailed hsplit _ hearlier hfails =>
    subst hsplit
    cases hfails
    refine (hearlier.kept_or_held l).imp_right ?_
    rintro ⟨unit, hunit, hplace⟩
    exact ⟨unit, List.mem_append_left _ hunit, hplace⟩
  | directoryRefused _ _ hkept => exact .inl (hkept l)
  | directoryFailed _ hkept => exact .inl (hkept l)

/-- All files outside are kept just if each path leads inside, or to a file that already has the
text that is written there last. -/
theorem Written.keepsOutside_iff (h : Written directory units d d') :
    KeepsOutside directory d d' ↔
      ∀ l last, d.IsLastAt directory units l last →
        d.entry? l = some (.file (.text last.text)) ∨ d.IsWithin directory l := by
  constructor
  · intro hkeeps l last hlast
    obtain ⟨before, after, hsplit, rfl, -⟩ := id hlast
    have hmem : last ∈ units := hsplit ▸ List.mem_append_right before List.mem_cons_self
    obtain ⟨last', hlast', hfind⟩ := h.held last hmem
    obtain rfl := hlast.unique hlast'
    exact hkeeps _ _ (find_eq_ok.mp hfind).2.2.1
  · intro hplaces l c hc
    by_cases hplace : d.IsPlaceOf directory units l
    · obtain ⟨unit, hunit, rfl⟩ := hplace
      obtain ⟨last, hlast, hfind⟩ := h.held unit hunit
      rw [(find_eq_ok.mp hfind).2.2.1] at hc
      obtain rfl := Entry.file.inj (Option.some.inj hc)
      exact hplaces _ last hlast
    · rcases h.others.entries l hplace with hkept | ⟨-, hmade, -⟩
      · exact .inl (hkept.symm.trans hc)
      · rw [hmade] at hc
        cases hc

end ServiceStubs.Disk

/-! ## Names of a run -/

namespace ServiceStubs

open Disk

variable {moduleName stem : String}

/-- The first segment of a module name has no dot, unless it is a name of separators alone. -/
theorem Naming.dot_or_slash_not_mem_primarySegment (moduleName : String) :
    '.' ∉ (primarySegment moduleName).toList ∨ '/' ∉ (primarySegment moduleName).toList := by
  rw [primarySegment]
  split
  · next segment hsegment =>
    left
    intro hdot
    rw [String.toList_ofList] at hdot
    have hmem := List.mem_of_find?_eq_some hsegment
    cases not_isSeparator_of_mem_splitAtAny hmem hdot
  · next hnone =>
    right
    intro hslash
    rw [List.find?_eq_none] at hnone
    have hempty : ∀ piece ∈ splitAtAny (fun c => c == '.' || c == ':') moduleName.toList,
        piece = [] := by
      intro piece hpiece
      simpa using hnone piece hpiece
    cases isSeparator_of_splitAtAny_empty hempty '/' hslash

/-- By induction on what comes before the suffix: a piece of two dots would start in it. -/
theorem Disk.above_not_mem_steps (h : '.' ∉ stem.toList) :
    .above ∉ steps (stem ++ Naming.generatedSuffix) := by
  have hpieces : ∀ s : List Char, '.' ∉ s →
      ['.', '.'] ∉ Naming.splitAtAny (· == '/') (s ++ Naming.generatedSuffix.toList) := by
    intro s hs
    induction s with
    | nil => decide
    | cons c s ih =>
      rw [List.mem_cons, not_or] at hs
      obtain ⟨hc, hs⟩ := hs
      obtain ⟨first, pieces, hrest, hcons⟩ :=
        Naming.exists_splitAtAny_cons (· == '/') c (s ++ Naming.generatedSuffix.toList)
      have hnot := ih hs
      rw [hrest] at hnot
      rw [List.cons_append, hcons]
      split_ifs
      · rw [List.mem_cons, not_or]
        exact ⟨nofun, hnot⟩
      · rw [List.mem_cons, not_or] at hnot ⊢
        exact ⟨fun heq => hc (List.cons.inj heq).1, hnot.2⟩
  intro habove
  rw [steps, String.toList_append, List.mem_filterMap] at habove
  obtain ⟨piece, hpiece, hstep⟩ := habove
  unfold step? at hstep
  split at hstep
  · cases hstep
  · cases hstep
  · exact hpieces stem.toList h hpiece
  · cases hstep

theorem Disk.isAbsolute_append (stem : String) :
    isAbsolute (stem ++ Naming.generatedSuffix) = isAbsolute stem := by
  rw [isAbsolute, isAbsolute, String.toList_append]
  cases stem.toList with
  | nil => decide
  | cons c rest => rfl

theorem Disk.IsFileName.not_leaves {name : String} (h : IsFileName name) : ¬ Leaves name := by
  rw [Leaves, h.isAbsolute_eq_false, h.steps_eq]
  exact not_or.mpr ⟨Bool.false_ne_true, Bool.false_ne_true⟩

/-- The name of the unit of a module leaves the directory if the first segment of the module name
starts at the top of the tree. -/
theorem Naming.leaves_modelUnitName (moduleName : String) :
    Leaves (modelUnitName moduleName) ↔ isAbsolute (primarySegment moduleName) = true := by
  rw [modelUnitName]
  rcases dot_or_slash_not_mem_primarySegment moduleName with hdot | hslash
  · rw [Leaves, isAbsolute_append, climbs_eq_false (above_not_mem_steps hdot) 0]
    exact or_iff_left Bool.false_ne_true
  · have hname := isFileName_append hslash
    rw [← isAbsolute_append, hname.isAbsolute_eq_false]
    exact iff_of_false hname.not_leaves Bool.false_ne_true

/-- Only the unit of the module can leave the directory that a run is written into. -/
theorem GeneratedUnit.IsNamedFor.leaves_iff {unit : GeneratedUnit}
    (h : unit.IsNamedFor moduleName) :
    Leaves unit.name ↔ unit.name = Naming.modelUnitName moduleName ∧
      isAbsolute (Naming.primarySegment moduleName) = true := by
  rcases h with hname | ⟨s, hfit, hname⟩
  · rw [hname, Naming.leaves_modelUnitName]
    exact (and_iff_right rfl).symm
  · have hfile : IsFileName unit.name := hname ▸ hfit.isFileName
    refine iff_of_false hfile.not_leaves ?_
    rintro ⟨hmodel, habsolute⟩
    have hleaves := (Naming.leaves_modelUnitName moduleName).mpr habsolute
    rw [← hmodel] at hleaves
    exact hfile.not_leaves hleaves

theorem Request.leaves_iff {request : Request} {unit : GeneratedUnit}
    (hunit : unit ∈ (request.run .builtIn).value.units) :
    Leaves unit.name ↔ unit.name = Naming.modelUnitName request.moduleName ∧
      isAbsolute (Naming.primarySegment request.moduleName) = true :=
  ((request.hasUnits_of_run .plain).isNamedFor unit hunit).leaves_iff

example : Leaves (Naming.modelUnitName "/tmp/acme_app.dll") := by decide

/-! ## Outside the directory -/

/-- Let units be written into a directory.  A location outside it is kept, or it holds a unit whose
name leaves the directory.  If all went well, the files outside are as they were just if each path
leads inside, or to a file that already had the text of the last unit for it. -/
theorem writes_outside {d d' : Disk} {directory : String} {units : List GeneratedUnit}
    {result : Except Fault Unit} (hwrite : d.writeUnits directory units = (result, d')) :
    (∀ l, d.IsWithin directory l ∨ KeptAt (d.OnTheWay directory) d d' l ∨
      ∃ unit ∈ units, Leaves unit.name ∧ d.target (Path.join directory unit.name) = l ∧
        d'.entry? l = some (.file (.text unit.text))) ∧
    (result = .ok () → (KeepsOutside directory d d' ↔
      ∀ l last, d.IsLastAt directory units l last →
        d.entry? l = some (.file (.text last.text)) ∨ d.IsWithin directory l)) := by
  constructor
  · intro l
    have hheld := kept_or_held d directory units l
    rw [hwrite] at hheld
    rcases hheld with hkept | ⟨unit, hunit, rfl, hentry⟩
    · exact .inr (.inl hkept)
    · by_cases hleaves : Leaves unit.name
      · exact .inr (.inr ⟨unit, hunit, hleaves, rfl, hentry⟩)
      · exact .inl (isWithin_of_not_leaves hleaves d directory)
  · rintro rfl
    exact (written_of_writeUnits hwrite).keepsOutside_iff

/-- A name that climbs out of the directory, after one that does not. -/
theorem writes_outside_climbing :
    let d : Disk :=
      ⟨[(["work"], .directory), (["kept.rs", "work"], .file (.text "old"))], ["work"]⟩
    let units : List GeneratedUnit := [⟨"a.rs", "one"⟩, ⟨"../kept.rs", "new"⟩]
    (d.writeUnits "out" units).1 = .ok () ∧
      (∀ l, d.IsWithin "out" l ∨ KeptAt (d.OnTheWay "out") d (d.writeUnits "out" units).2 l ∨
        ∃ unit ∈ units, Leaves unit.name ∧ d.target (Path.join "out" unit.name) = l ∧
          entry? (d.writeUnits "out" units).2 l = some (.file (.text unit.text))) ∧
      ¬ KeepsOutside "out" d (d.writeUnits "out" units).2 := by
  intro d units
  have hok : (d.writeUnits "out" units).1 = .ok () := rfl
  obtain ⟨hkept, hiff⟩ := writes_outside (d := d) (Prod.mk.eta (p := d.writeUnits "out" units)).symm
  refine ⟨hok, hkept, fun hkeeps => ?_⟩
  have hlast : d.IsLastAt "out" units ["kept.rs", "work"] ⟨"../kept.rs", "new"⟩ := by
    refine ⟨[⟨"a.rs", "one"⟩], [], rfl, by decide, ?_⟩
    rintro ⟨unit, hunit, -⟩
    cases hunit
  rcases (hiff hok).mp hkeeps _ _ hlast with hold | hwithin
  · exact absurd hold (by decide)
  · exact absurd hwithin (by decide)

/-- The file beside the directory gets the text of the unit. -/
theorem not_keepsOutside :
    ¬ ∀ (d : Disk) (directory : String) (units : List GeneratedUnit),
      KeepsOutside directory d (d.writeUnits directory units).2 := by
  intro hkeeps
  let d : Disk :=
    ⟨[(["work"], .directory), (["kept.rs", "work"], .file (.text "old"))], ["work"]⟩
  have hnew : entry? (d.writeUnits "out" [⟨"../kept.rs", "new"⟩]).2 ["kept.rs", "work"] =
      some (.file (.text "new")) := by decide
  rcases hkeeps d "out" [⟨"../kept.rs", "new"⟩] _ _ hnew with hold | hwithin
  · exact absurd hold (by decide)
  · exact absurd hwithin (by decide)

end ServiceStubs
