import Mathlib.Data.List.Induction
import ServiceStubs.Proofs.Declarations.Services

/-!
# One block after another

Blocks are collected apart from the types and joined to them when all files are read.  All classes
get their members at once; the same comes out when one block after another is handed to the first
class with its key.
-/

namespace ServiceStubs

open ServiceStubs.Rust

/-- The file with its classes, but without their members. -/
def SourceDecls.outline (f : SourceDecls) : SourceDecls :=
  ⟨f.path, f.classes.map ClassDecl.bare⟩

namespace Rust

/-! ## Blocks -/

/-- An implementation block and the path of the module it stands in. -/
structure Block where
  scope : String
  body : ImplBlock

namespace Block

/-- The key of the class that the block is for, if its type has a name. -/
def key? (b : Block) : Option (String × String) :=
  b.body.selfType.lastName?.map fun name => (name, b.scope)

/-- The functions of the block, as members of the class that it is for. -/
def members (b : Block) : List Member :=
  match b.body.selfType.lastName? with
  | some name => b.body.methods.map (Method.toMember name b.body.trait?)
  | none => []

/-- What the block contributes. -/
def findings (b : Block) : List Finding := b.body.findings b.scope

variable {b : Block} {key : String × String}

theorem findings_of_key?_eq_some (h : b.key? = some key) :
    b.findings = [.members key.1 key.2 b.members] := by
  obtain ⟨name, hname, rfl⟩ := Option.map_eq_some_iff.mp h
  rw [findings, ImplBlock.findings, members, hname]

theorem findings_of_key?_eq_none (h : b.key? = none) : b.findings = [] := by
  rw [findings, ImplBlock.findings, Option.map_eq_none_iff.mp h]

theorem length_members (h : b.key? = some key) : b.members.length = b.body.methods.length := by
  obtain ⟨name, hname, rfl⟩ := Option.map_eq_some_iff.mp h
  rw [members, hname, List.length_map]

end Block

/-- The members that blocks have for a key, in the order of the blocks. -/
def membersAt (blocks : List Block) (key : String × String) : List Member :=
  (blocks.filter (·.key? = some key)).flatMap Block.members

theorem flatMap_membersOf_findings (blocks : List Block) (key : String × String) :
    (blocks.flatMap Block.findings).flatMap (·.membersOf key.1 key.2) = membersAt blocks key := by
  induction blocks with
  | nil => rfl
  | cons b blocks ih =>
    rw [List.flatMap_cons, List.flatMap_append, ih, membersAt, membersAt, List.filter_cons]
    cases hb : b.key? with
    | none =>
      rw [Block.findings_of_key?_eq_none hb]
      simp
    | some own =>
      rw [Block.findings_of_key?_eq_some hb, List.flatMap_singleton, Finding.membersOf]
      by_cases hown : own = key
      · subst hown
        simp
      · have hne : ¬ (own.1 = key.1 ∧ own.2 = key.2) := fun h => hown (Prod.ext h.1 h.2)
        simp [hown, hne]

/-- The block at a site, if there is one. -/
def Site.block? (s : Site) : Option Block :=
  match s.entry with
  | .declared _ _ => none
  | .implBlock body => some ⟨s.scope, body⟩

/-- Only blocks hold members. -/
theorem flatMap_membersOf_sites (sites : List Site) (key : String × String) :
    (sites.flatMap Site.findings).flatMap (·.membersOf key.1 key.2) =
      membersAt (sites.filterMap Site.block?) key := by
  rw [← flatMap_membersOf_findings]
  induction sites with
  | nil => rfl
  | cons s sites ih =>
    obtain ⟨scope, entry⟩ := s
    rw [List.flatMap_cons, List.flatMap_append, ih]
    cases entry with
    | declared name visibility => rfl
    | implBlock body =>
      change _ = List.flatMap _ (Block.findings ⟨scope, body⟩ ++ _)
      rw [List.flatMap_append]
      rfl

/-! ## One block after another -/

/-- Gives members to the first class of a key, behind those that it has. -/
def extendFirst (key : String × String) (ms : List Member) : List ClassDecl → List ClassDecl
  | [] => []
  | c :: cs =>
    if c.key = key then { c with members := c.members ++ ms } :: cs
    else c :: extendFirst key ms cs

theorem extendFirst_of_not_mem {key : String × String} {ms : List Member} {cs : List ClassDecl}
    (h : key ∉ cs.map ClassDecl.key) : extendFirst key ms cs = cs := by
  induction cs with
  | nil => rfl
  | cons c cs ih =>
    rw [List.map_cons, List.mem_cons, not_or] at h
    rw [extendFirst, if_neg (Ne.symm h.1), ih h.2]

/-- Gives members to the first class of a key in files. -/
def extendIn (key : String × String) (ms : List Member) : List SourceDecls → List SourceDecls
  | [] => []
  | f :: fs =>
    if (f.classes.map ClassDecl.key).contains key then
      { f with classes := extendFirst key ms f.classes } :: fs
    else f :: extendIn key ms fs

/-- Hands a block to the first class with its key.  A block without such a class is dropped. -/
def attach (files : List SourceDecls) (b : Block) : List SourceDecls :=
  match b.key? with
  | some key => extendIn key b.members files
  | none => files

section

variable {findings : List Finding} {key : String × String} {ms : List Member}
variable {earlier : List (String × String)} {c : ClassDecl}

/-- Members that are found last go behind those that the class has. -/
theorem joined_concat_self (h : c.key ∉ earlier) :
    joined (findings ++ [.members c.name c.scope ms]) earlier c =
      { joined findings earlier c with members := (joined findings earlier c).members ++ ms } := by
  simp [joined, h, Finding.membersOf]

theorem joined_concat_of_ne (h : c.key ≠ key) :
    joined (findings ++ [.members key.1 key.2 ms]) earlier c = joined findings earlier c := by
  have hother : ¬ (key.1 = c.name ∧ key.2 = c.scope) := fun hkey =>
    h (Prod.ext hkey.1.symm hkey.2.symm)
  simp [joined, Finding.membersOf, hother]

/-- If an earlier class has the key, members that are found last go to no class here. -/
theorem placeMembers_concat_of_mem (h : key ∈ earlier) (cs : List ClassDecl) :
    placeMembers (findings ++ [.members key.1 key.2 ms]) earlier cs =
      placeMembers findings earlier cs := by
  induction cs generalizing earlier with
  | nil => rfl
  | cons c cs ih =>
    rw [placeMembers_cons, placeMembers_cons, ih (List.mem_cons_of_mem _ h)]
    apply congrArg (· :: _)
    by_cases hc : c.key = key
    · rw [joined_of_mem (hc ▸ h), joined_of_mem (hc ▸ h)]
    · exact joined_concat_of_ne hc

/-- Otherwise they go to the first class of the key. -/
theorem placeMembers_concat (h : key ∉ earlier) (cs : List ClassDecl) :
    placeMembers (findings ++ [.members key.1 key.2 ms]) earlier cs =
      extendFirst key ms (placeMembers findings earlier cs) := by
  induction cs generalizing earlier with
  | nil => rfl
  | cons c cs ih =>
    rw [placeMembers_cons, placeMembers_cons, extendFirst, key_joined]
    by_cases hc : c.key = key
    · subst hc
      rw [if_pos rfl, placeMembers_concat_of_mem List.mem_cons_self]
      exact congrArg (· :: _) (joined_concat_self h)
    · have hrest : key ∉ c.key :: earlier := by
        rw [List.mem_cons, not_or]
        exact ⟨Ne.symm hc, h⟩
      rw [if_neg hc, ih hrest, joined_concat_of_ne hc]

theorem placeAllMembers_concat_of_mem (h : key ∈ earlier) (files : List SourceDecls) :
    placeAllMembers (findings ++ [.members key.1 key.2 ms]) earlier files =
      placeAllMembers findings earlier files := by
  induction files generalizing earlier with
  | nil => rfl
  | cons f files ih =>
    rw [placeAllMembers, placeAllMembers, placeMembers_concat_of_mem h,
      ih (List.mem_append_right _ h)]

theorem placeAllMembers_concat (h : key ∉ earlier) (files : List SourceDecls) :
    placeAllMembers (findings ++ [.members key.1 key.2 ms]) earlier files =
      extendIn key ms (placeAllMembers findings earlier files) := by
  induction files generalizing earlier with
  | nil => rfl
  | cons f files ih =>
    have hkeys : f.classes.map (fun c => (c.name, c.scope)) = f.classes.map ClassDecl.key := rfl
    rw [placeAllMembers, placeAllMembers, extendIn, map_key_placeMembers,
      placeMembers_concat h, hkeys]
    by_cases hf : key ∈ f.classes.map ClassDecl.key
    · rw [if_pos (List.contains_iff_mem.mpr hf),
        placeAllMembers_concat_of_mem (List.mem_append_left _ hf)]
    · have hrest : key ∉ f.classes.map ClassDecl.key ++ earlier := by
        rw [List.mem_append, not_or]
        exact ⟨hf, h⟩
      have hfile : key ∉ (placeMembers findings earlier f.classes).map ClassDecl.key := by
        rwa [map_key_placeMembers]
      rw [if_neg (mt List.contains_iff_mem.mp hf), extendFirst_of_not_mem hfile, ih hrest]

/-- Without findings no class has members. -/
theorem placeAllMembers_nil (earlier : List (String × String)) (files : List SourceDecls) :
    placeAllMembers [] earlier files = files.map SourceDecls.outline := by
  have hclasses : ∀ (earlier : List (String × String)) (cs : List ClassDecl),
      placeMembers [] earlier cs = cs.map ClassDecl.bare := by
    intro earlier cs
    induction cs generalizing earlier with
    | nil => rfl
    | cons c cs ih =>
      rw [placeMembers_cons, List.map_cons, ih, joined, List.flatMap_nil, ite_self]
      rfl
  induction files generalizing earlier with
  | nil => rfl
  | cons f files ih =>
    rw [placeAllMembers, List.map_cons, ih, hclasses]
    rfl

/-- By induction on the blocks: giving all classes their members at once is handing out one block
after another. -/
theorem placeAllMembers_eq_foldl (blocks : List Block) (files : List SourceDecls) :
    placeAllMembers (blocks.flatMap Block.findings) [] files =
      blocks.foldl attach (files.map SourceDecls.outline) := by
  induction blocks using List.reverseRecOn with
  | nil => exact placeAllMembers_nil [] files
  | append_singleton blocks b ih =>
    rw [List.flatMap_append, List.flatMap_singleton, List.foldl_concat, ← ih, attach]
    cases hkey : b.key? with
    | none => rw [Block.findings_of_key?_eq_none hkey, List.append_nil]
    | some key =>
      rw [Block.findings_of_key?_eq_some hkey]
      exact placeAllMembers_concat List.not_mem_nil files

/-- Of what is found, only the members of each key matter. -/
theorem placeAllMembers_congr {findings' : List Finding}
    (h : ∀ key : String × String, findings.flatMap (·.membersOf key.1 key.2) =
      findings'.flatMap (·.membersOf key.1 key.2)) (files : List SourceDecls) :
    placeAllMembers findings earlier files = placeAllMembers findings' earlier files := by
  have hclass : ∀ earlier c, joined findings earlier c = joined findings' earlier c := by
    intro earlier c
    have hc := h c.key
    rw [ClassDecl.key] at hc
    rw [joined, hc, joined]
  induction files generalizing earlier with
  | nil => rfl
  | cons f files ih =>
    rw [placeAllMembers, placeAllMembers, placeMembers_eq, placeMembers_eq, ih]
    simp only [hclass]

end

end Rust

/-! ## Files -/

namespace SourceText

/-- The path of the file and its types, still without members. -/
def outline (f : SourceText) : SourceDecls := ⟨f.path, f.sites.filterMap Site.class?⟩

/-- The blocks of the file, in the order of its text. -/
def blocks (f : SourceText) : List Block := f.sites.filterMap Site.block?

theorem outline_outline (f : SourceText) : f.outline.outline = f.outline := by
  rw [outline, SourceDecls.outline]
  apply congrArg (SourceDecls.mk f.path)
  rw [List.map_filterMap]
  refine List.filterMap_congr fun s _ => ?_
  obtain ⟨scope, entry⟩ := s
  cases entry with
  | declared name visibility => rfl
  | implBlock body => rfl

theorem map_outline_outline (files : List SourceText) :
    (files.map outline).map SourceDecls.outline = files.map outline := by
  rw [List.map_map]
  exact List.map_congr_left fun f _ => f.outline_outline

end SourceText

/-- The blocks of all files are handed out one after another. -/
theorem Rust.snapshotOf_eq_foldl (files : List SourceText) :
    snapshotOf (files.map fun f => (f.path, f.sites.flatMap Site.findings)) =
      ⟨(files.flatMap SourceText.blocks).foldl attach (files.map SourceText.outline)⟩ := by
  have hbare : (files.map fun f => (f.path, f.sites.flatMap Site.findings)).map
      (fun f => (⟨f.1, f.2.filterMap Finding.class?⟩ : SourceDecls)) =
        files.map SourceText.outline := by
    rw [List.map_map]
    refine List.map_congr_left fun f _ => ?_
    rw [Function.comp_apply, SourceText.outline, ← filterMap_class?_findings]
  have hmembers : ∀ key : String × String,
      ((files.flatMap SourceText.sites).flatMap Site.findings).flatMap (·.membersOf key.1 key.2) =
        ((files.flatMap SourceText.blocks).flatMap Block.findings).flatMap
          (·.membersOf key.1 key.2) := by
    intro key
    rw [flatMap_membersOf_sites, flatMap_membersOf_findings, List.filterMap_flatMap]
    rfl
  rw [← SourceText.map_outline_outline, ← placeAllMembers_eq_foldl, snapshotOf]
  dsimp only
  rw [hbare, List.flatMap_map, ← placeAllMembers_congr hmembers, List.flatMap_assoc]

end ServiceStubs
