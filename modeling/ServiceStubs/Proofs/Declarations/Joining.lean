import Mathlib.Data.List.Basic
import ServiceStubs.Declarations.OfRust

/-!
# Which class gets the members

Classes and members are found in one pass over all files and joined afterwards.  Whether a class
gets the members of its name and module depends on the classes before it, of any file, and on
nothing else.
-/

namespace ServiceStubs

/-! ## Items after others -/

/-- Each item of a list, with those before it. -/
def withEarlier {α : Type} (as : List α) : List (List α × α) :=
  as.mapIdx fun i a => (as.take i, a)

section

variable {α β : Type}

@[simp] theorem withEarlier_nil : withEarlier ([] : List α) = [] := rfl

@[simp] theorem withEarlier_cons (a : α) (as : List α) :
    withEarlier (a :: as) = ([], a) :: (withEarlier as).map fun p => (a :: p.1, p.2) := by
  simp only [withEarlier, List.mapIdx_cons, List.take_zero, List.take_succ_cons]
  simp only [List.mapIdx_eq_zipIdx_map, List.map_map, Function.comp_def]

theorem map_snd_withEarlier (as : List α) : (withEarlier as).map Prod.snd = as := by
  induction as with
  | nil => rfl
  | cons a as ih => simpa [Function.comp_def] using ih

theorem mem_of_mem_withEarlier {as : List α} {p : List α × α} (h : p ∈ withEarlier as) :
    p.2 ∈ as := by
  have hmem := List.mem_map_of_mem (f := Prod.snd) h
  rwa [map_snd_withEarlier] at hmem

theorem withEarlier_append (as bs : List α) :
    withEarlier (as ++ bs) = withEarlier as ++ (withEarlier bs).map fun p => (as ++ p.1, p.2) := by
  induction as with
  | nil => simp
  | cons a as ih => simp [ih, List.map_map, Function.comp_def]

/-- The item has in view what comes before it. -/
theorem fst_eq_of_withEarlier {as : List α} {before after : List (List α × α)}
    {p : List α × α} (h : withEarlier as = before ++ p :: after) : p.1 = before.map Prod.snd := by
  have hall : as = before.map Prod.snd ++ p.2 :: after.map Prod.snd := by
    rw [← map_snd_withEarlier as, h, List.map_append, List.map_cons]
  have hitem : (withEarlier as)[before.length]? = some p := by
    rw [h, List.getElem?_append_right (Nat.le_refl _), Nat.sub_self]
    rfl
  rw [withEarlier, List.getElem?_mapIdx] at hitem
  obtain ⟨a, -, rfl⟩ := Option.map_eq_some_iff.mp hitem
  have htake : as.take (before.map Prod.snd).length = before.map Prod.snd := by
    conv_lhs => rw [hall]
    exact List.take_left
  rwa [List.length_map] at htake

/-- Items that are left out do not come before any other. -/
theorem withEarlier_filterMap (f : α → Option β) (as : List α) :
    withEarlier (as.filterMap f) =
      (withEarlier as).filterMap fun p => (f p.2).map fun b => (p.1.filterMap f, b) := by
  induction as with
  | nil => rfl
  | cons a as ih =>
    cases h : f a with
    | none => simp [h, ih, List.filterMap_map]
    | some b =>
      simp [h, ih, List.filterMap_map, List.map_filterMap, Function.comp_def, Option.map_map]

theorem withEarlier_filter (p : α → Bool) (as : List α) :
    withEarlier (as.filter p) =
      ((withEarlier as).filter fun q => p q.2).map fun q => (q.1.filter p, q.2) := by
  induction as with
  | nil => rfl
  | cons a as ih =>
    cases h : p a with
    | false => simp [h, ih, List.filter_map, Function.comp_def]
    | true => simp [h, ih, List.filter_map, Function.comp_def]

end

/-- The name and the module by which members find their class. -/
def ClassDecl.key (c : ClassDecl) : String × String := (c.name, c.scope)

/-- The class without its members. -/
def ClassDecl.bare (c : ClassDecl) : ClassDecl := { c with members := [] }

namespace Rust

/-- The class with its members, if no earlier class has its key. -/
def joined (findings : List Finding) (earlier : List (String × String)) (c : ClassDecl) :
    ClassDecl :=
  { c with members := if earlier.contains c.key then [] else
      findings.flatMap (·.membersOf c.name c.scope) }

/-- The order of the earlier classes does not matter. -/
theorem joined_congr {findings : List Finding} {earlier earlier' : List (String × String)}
    (h : ∀ key, key ∈ earlier ↔ key ∈ earlier') (c : ClassDecl) :
    joined findings earlier c = joined findings earlier' c := by
  simp only [joined, List.contains_iff_mem, h]

section

variable {findings : List Finding} {earlier : List (String × String)} {c : ClassDecl}

@[simp] theorem key_joined : (joined findings earlier c).key = c.key := rfl

theorem joined_of_mem (h : c.key ∈ earlier) : joined findings earlier c = c.bare := by
  rw [joined, if_pos (List.contains_iff_mem.mpr h)]
  rfl

theorem members_joined_of_not_mem (h : c.key ∉ earlier) :
    (joined findings earlier c).members = findings.flatMap (·.membersOf c.key.1 c.key.2) :=
  if_neg fun hmem => h (List.contains_iff_mem.mp hmem)

end

theorem placeMembers_cons (findings : List Finding) (earlier : List (String × String))
    (c : ClassDecl) (cs : List ClassDecl) :
    placeMembers findings earlier (c :: cs) =
      joined findings earlier c :: placeMembers findings (c.key :: earlier) cs := by
  rw [placeMembers]
  apply congrArg (· :: _)
  simp only [joined, List.contains_iff_mem]
  rfl

theorem map_key_placeMembers (findings : List Finding) (earlier : List (String × String))
    (cs : List ClassDecl) :
    (placeMembers findings earlier cs).map ClassDecl.key = cs.map ClassDecl.key := by
  induction cs generalizing earlier with
  | nil => rfl
  | cons c cs ih =>
    rw [placeMembers_cons, List.map_cons, List.map_cons, ih, key_joined]

/-- From one class to the next the classes before it grow by one; so each class of a file is joined
with those before it in view. -/
theorem placeMembers_eq (findings : List Finding) (earlier : List (String × String))
    (cs : List ClassDecl) :
    placeMembers findings earlier cs =
      (withEarlier cs).map fun p => joined findings (earlier ++ p.1.map ClassDecl.key) p.2 := by
  induction cs generalizing earlier with
  | nil => rfl
  | cons c cs ih =>
    have hrest : ∀ p : List ClassDecl × ClassDecl,
        joined findings (c.key :: earlier ++ p.1.map ClassDecl.key) p.2 =
          joined findings (earlier ++ (c :: p.1).map ClassDecl.key) p.2 := by
      intro p
      apply joined_congr
      intro key
      simp only [List.map_cons, List.cons_append, List.mem_cons, List.mem_append]
      exact or_left_comm
    rw [placeMembers_cons, withEarlier_cons, List.map_cons, List.map_map, List.map_nil,
      List.append_nil]
    apply congrArg (_ :: ·)
    refine (ih _).trans ?_
    exact List.map_congr_left fun p _ => hrest p

/-- The classes of all files are joined as if they stood in one file. -/
theorem classes_placeAllMembers (findings : List Finding) (earlier : List (String × String))
    (files : List SourceDecls) :
    (placeAllMembers findings earlier files).flatMap SourceDecls.classes =
      (withEarlier (files.flatMap SourceDecls.classes)).map fun p =>
        joined findings (earlier ++ p.1.map ClassDecl.key) p.2 := by
  induction files generalizing earlier with
  | nil => rfl
  | cons f files ih =>
    have hrest : ∀ p : List ClassDecl × ClassDecl,
        joined findings (f.classes.map ClassDecl.key ++ earlier ++ p.1.map ClassDecl.key) p.2 =
          joined findings (earlier ++ (f.classes ++ p.1).map ClassDecl.key) p.2 := by
      intro p
      apply joined_congr
      intro key
      simp only [List.map_append, List.mem_append, or_assoc]
      exact or_left_comm
    rw [placeAllMembers, List.flatMap_cons, List.flatMap_cons, withEarlier_append, List.map_append,
      List.map_map, placeMembers_eq]
    congr 1
    refine (ih _).trans ?_
    exact List.map_congr_left fun p _ => hrest p

/-- The classes of a snapshot, when their files contribute so much. -/
theorem classes_snapshotOf (files : List (String × List Finding)) :
    (snapshotOf files).classes =
      (withEarlier ((files.flatMap Prod.snd).filterMap Finding.class?)).map fun p =>
        joined (files.flatMap Prod.snd) (p.1.map ClassDecl.key) p.2 := by
  have hbare : (files.map fun f => (⟨f.1, f.2.filterMap Finding.class?⟩ : SourceDecls)).flatMap
      SourceDecls.classes = (files.flatMap Prod.snd).filterMap Finding.class? := by
    rw [List.flatMap_map, List.filterMap_flatMap]
  rw [Snapshot.classes, snapshotOf, ← hbare]
  exact classes_placeAllMembers _ [] _

/-- A class at its place among the others is joined with those before it in view. -/
theorem exists_joined_of_classes {files : List (String × List Finding)}
    {earlier later : List ClassDecl} {c : ClassDecl}
    (h : (snapshotOf files).classes = earlier ++ c :: later) :
    ∃ c', c = joined (files.flatMap Prod.snd) (earlier.map ClassDecl.key) c' := by
  rw [classes_snapshotOf] at h
  obtain ⟨before, rest, hclasses, hbefore, hrest⟩ := List.map_eq_append_iff.mp h
  obtain ⟨p, after, rfl, hp, -⟩ := List.map_eq_cons_iff.mp hrest
  refine ⟨p.2, ?_⟩
  rw [← hp, ← hbefore, fst_eq_of_withEarlier hclasses, List.map_map, List.map_map]
  rfl

end Rust

end ServiceStubs
