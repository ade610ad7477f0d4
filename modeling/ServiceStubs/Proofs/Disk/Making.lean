import ServiceStubs.Proofs.Disk.Entries

/-!
# Making directories

Making the directory at a path changes nothing that is there.  What it adds are directories on the
way to the end of the path, be it that it goes well or is refused half way.
-/

namespace ServiceStubs.Disk

variable {d d' d'' : Disk} {start l : Location} {path : List Step}

/-! ## Ways -/

/-- The steps lead past the location, or end there. -/
def Passes (start : Location) (path : List Step) (l : Location) : Prop :=
  ∃ before, before <+: path ∧ l = walk start before

/-- The location lies on the way to the end of a path. -/
def OnTheWay (d : Disk) (path : String) (l : Location) : Prop :=
  Passes (d.start path) (steps path) l

namespace Passes

theorem walk_self (start : Location) (path : List Step) : Passes start path (walk start path) :=
  ⟨path, List.prefix_refl path, rfl⟩

/-- The way to the parent is part of the way, although steps that stay in place are left out. -/
theorem of_parentSteps (h : Passes start (parentSteps path) l) : Passes start path l := by
  cases path with
  | nil => exact h
  | cons s ss =>
    obtain ⟨before, hbefore, rfl⟩ := h
    have hprefix : before <+: s :: ss.filter (· != .here) :=
      hbefore.trans (List.dropLast_prefix _)
    rcases List.prefix_cons_iff.mp hprefix with rfl | ⟨rest, rfl, hrest⟩
    · exact ⟨[], List.nil_prefix, rfl⟩
    · obtain ⟨after, hafter⟩ := hrest
      obtain ⟨front, back, rfl, rfl, -⟩ := List.filter_eq_append_iff.mp hafter.symm
      refine ⟨s :: front, ⟨back, rfl⟩, ?_⟩
      exact walk_filter_here (s.target start) front

end Passes

/-! ## Growth -/

/-- The location keeps its entry, unless it is one of the given places: there a directory may be
new. -/
def KeptAt (places : Location → Prop) (d d' : Disk) (l : Location) : Prop :=
  d'.entry? l = d.entry? l ∨ d.entry? l = none ∧ d'.entry? l = some .directory ∧ places l

theorem KeptAt.entry?_of_some {places : Location → Prop} (h : KeptAt places d d' l) {e : Entry}
    (hl : d.entry? l = some e) : d'.entry? l = some e := by
  rcases h with hkept | ⟨hnone, -⟩
  · rw [hkept, hl]
  · rw [hnone] at hl
    cases hl

/-- Nothing is lost, and what is new are directories in given places. -/
structure GrowsIn (places : Location → Prop) (d d' : Disk) : Prop where
  current : d'.current = d.current
  unique : d.IsUnique → d'.IsUnique
  entries : ∀ l, KeptAt places d d' l

namespace GrowsIn

variable {places places' : Location → Prop}

theorem refl (places : Location → Prop) (d : Disk) : GrowsIn places d d :=
  ⟨rfl, id, fun _ => .inl rfl⟩

theorem entry?_of_some (h : GrowsIn places d d') {e : Entry} (hl : d.entry? l = some e) :
    d'.entry? l = some e :=
  (h.entries l).entry?_of_some hl

theorem trans (h : GrowsIn places d d') (h' : GrowsIn places d' d'') : GrowsIn places d d'' where
  current := h'.current.trans h.current
  unique := h'.unique ∘ h.unique
  entries := by
    intro l
    rcases h.entries l with hkept | ⟨hnone, hmade, hl⟩
    · rw [KeptAt, ← hkept]
      exact h'.entries l
    · exact .inr ⟨hnone, h'.entry?_of_some hmade, hl⟩

theorem mono (h : GrowsIn places d d') (hplaces : ∀ l, places l → places' l) :
    GrowsIn places' d d' where
  current := h.current
  unique := h.unique
  entries := fun l => (h.entries l).imp_right fun ⟨hnone, hmade, hl⟩ => ⟨hnone, hmade, hplaces l hl⟩

/-- A directory where there is nothing. -/
theorem put (hnone : d.entry? l = none) (hl : places l) :
    GrowsIn places d (d.put l .directory) where
  current := rfl
  unique := fun h => h.put l .directory
  entries := by
    intro m
    by_cases hm : m = l
    · subst hm
      right
      have hne : m ≠ [] := ne_nil_of_not_directory (by rw [hnone]; exact nofun)
      exact ⟨hnone, entry?_put_self d hne .directory, hl⟩
    · exact .inl (entry?_put_of_ne d hm .directory)

end GrowsIn

/-! ## Making -/

/-- A directory is made where the path leads, if there is nothing. -/
theorem makeDirectory_eq_ok (h : d.makeDirectory start path = .ok d') :
    d.follow start path = .ok (walk start path) ∧ d.entry? (walk start path) = none ∧
      d' = d.put (walk start path) .directory := by
  rcases List.eq_nil_or_concat path with rfl | ⟨before, last, rfl⟩
  · cases h
  · rw [List.concat_eq_append] at h ⊢
    simp only [makeDirectory, List.getLast?_concat, List.dropLast_concat] at h
    obtain ⟨parent, hfollow, h⟩ := eq_ok_of_bind h
    obtain ⟨_, hparent, h⟩ := eq_ok_of_bind h
    cases last with
    | named name =>
      obtain rfl := eq_walk_of_follow hfollow
      have hdirectory := requireDirectory_eq_ok.mp hparent
      rw [walk_append_named]
      have hall : d.follow start (before ++ [.named name]) = .ok (name :: walk start before) :=
        follow_concat_eq_ok.mpr ⟨_, hfollow, hdirectory, rfl⟩
      dsimp only at h
      split at h
      · cases h
      · next hfree =>
        exact ⟨hall, Option.not_isSome_iff_eq_none.mp hfree, (Except.ok.inj h).symm⟩
    | here => cases h
    | above => cases h

theorem isDirectory_of_makeDirectory (h : d.makeDirectory start path = .ok d') :
    d'.isDirectory start path = true := by
  obtain ⟨hfollow, hnone, rfl⟩ := makeDirectory_eq_ok h
  have hgrows : GrowsIn (fun _ => True) d _ := .put hnone trivial
  refine isDirectory_of_follow (follow_mono (fun k hk => hgrows.entry?_of_some hk) hfollow) ?_
  exact entry?_put_self d (ne_nil_of_not_directory (by rw [hnone]; exact nofun)) .directory

theorem GrowsIn.of_makeDirectory (h : d.makeDirectory start path = .ok d') :
    GrowsIn (Passes start path) d d' := by
  obtain ⟨-, hnone, rfl⟩ := makeDirectory_eq_ok h
  exact .put hnone (.walk_self start path)

/-- What comes of making the directory at a path: there are new directories on the way to it, and if
it went well also the directory. -/
structure Makes (start : Location) (path : List Step) (d : Disk)
    (result : Except DiskError Unit × Disk) : Prop where
  grows : GrowsIn (Passes start path) d result.2
  isDirectory : result.1 = .ok () → result.2.isDirectory start path = true

namespace Makes

theorem of_ok (hgrows : GrowsIn (Passes start path) d d')
    (h : d'.makeDirectory start path = .ok d'') : Makes start path d (.ok (), d'') :=
  ⟨hgrows.trans (.of_makeDirectory h), fun _ => isDirectory_of_makeDirectory h⟩

/-- A directory that cannot be made may be there. -/
theorem settle (hgrows : GrowsIn (Passes start path) d d') (e : DiskError) :
    Makes start path d
      (if d'.isDirectory start path then (.ok (), d') else (.error e, d')) := by
  split
  · next hdirectory => exact ⟨hgrows, fun _ => hdirectory⟩
  · exact ⟨hgrows, nofun⟩

/-- By induction on how many directories may be made: those that the parent takes lie on the way,
and one more is made at the end. -/
theorem of_makeAllFuel (n : Nat) (path : List Step) (d : Disk) :
    Makes start path d (makeAllFuel start n path d) := by
  induction n generalizing path d with
  | zero => exact ⟨.refl _ d, nofun⟩
  | succ n ih =>
    rw [makeAllFuel]
    dsimp only
    split
    · next d' hmake => exact .of_ok (.refl _ d) hmake
    · -- The parent is missing.  It is made first, be it with success or not.
      have hparent := (ih (parentSteps path) d).grows.mono fun l => Passes.of_parentSteps
      split
      · next d' hmade =>
        rw [hmade] at hparent
        split
        · next d'' hmake => exact .of_ok hparent hmake
        · exact .settle hparent _
      · next hrefused => exact ⟨hparent, fun hok => (hrefused _ (Prod.ext hok rfl)).elim⟩
    · exact .settle (.refl _ d) _

end Makes

/-- Making the directory at a path, and those on the way to it. -/
theorem makes_of_makeAll (d : Disk) (path : String) :
    Makes (d.start path) (steps path) d (d.makeAll path) :=
  .of_makeAllFuel _ _ d

end ServiceStubs.Disk
