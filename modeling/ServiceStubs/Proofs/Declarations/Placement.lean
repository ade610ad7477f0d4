import ServiceStubs.Proofs.Declarations.Attaching

/-!
# Where implementation blocks stand

Of files, only the types in each and the order of all blocks decide what a snapshot is: a block may
stand before its type, behind it or in another file.  No function is lost on the way, and none is
given twice.
-/

namespace ServiceStubs

open ServiceStubs.Rust

/-! ## Keys and numbers of members -/

/-- How many members the classes of files have. -/
def memberCount (files : List SourceDecls) : Nat :=
  ((files.flatMap SourceDecls.classes).flatMap ClassDecl.members).length

/-- The keys of the classes of files, in order. -/
def keysOf (files : List SourceDecls) : List (String × String) :=
  (files.flatMap SourceDecls.classes).map ClassDecl.key

theorem keysOf_cons (f : SourceDecls) (files : List SourceDecls) :
    keysOf (f :: files) = f.classes.map ClassDecl.key ++ keysOf files := by
  rw [keysOf, List.flatMap_cons, List.map_append]
  rfl

theorem keysOf_outline (files : List SourceDecls) :
    keysOf (files.map SourceDecls.outline) = keysOf files := by
  induction files with
  | nil => rfl
  | cons f files ih =>
    rw [List.map_cons, keysOf_cons, keysOf_cons, ih, SourceDecls.outline, List.map_map]
    rfl

theorem memberCount_cons (f : SourceDecls) (files : List SourceDecls) :
    memberCount (f :: files) = (f.classes.flatMap ClassDecl.members).length + memberCount files := by
  rw [memberCount, List.flatMap_cons, List.flatMap_append, List.length_append]
  rfl

theorem memberCount_outline (files : List SourceDecls) :
    memberCount (files.map SourceDecls.outline) = 0 := by
  have hbare : ∀ cs : List ClassDecl, (cs.map ClassDecl.bare).flatMap ClassDecl.members = [] := by
    intro cs
    rw [List.flatMap_eq_nil_iff]
    exact List.forall_mem_map.mpr fun c _ => rfl
  induction files with
  | nil => rfl
  | cons f files ih =>
    rw [List.map_cons, memberCount_cons, ih, SourceDecls.outline, hbare]
    rfl

namespace Rust

variable {key : String × String} {ms : List Member}

theorem map_bare_extendFirst (key : String × String) (ms : List Member) (cs : List ClassDecl) :
    (extendFirst key ms cs).map ClassDecl.bare = cs.map ClassDecl.bare := by
  induction cs with
  | nil => rfl
  | cons c cs ih =>
    rw [extendFirst]
    split
    · rfl
    · rw [List.map_cons, List.map_cons, ih]

theorem map_outline_extendIn (key : String × String) (ms : List Member)
    (files : List SourceDecls) :
    (extendIn key ms files).map SourceDecls.outline = files.map SourceDecls.outline := by
  induction files with
  | nil => rfl
  | cons f files ih =>
    rw [extendIn]
    split
    · rw [List.map_cons, List.map_cons, SourceDecls.outline, map_bare_extendFirst]
      rfl
    · rw [List.map_cons, List.map_cons, ih]

theorem length_extendFirst {cs : List ClassDecl} (h : key ∈ cs.map ClassDecl.key) :
    ((extendFirst key ms cs).flatMap ClassDecl.members).length =
      (cs.flatMap ClassDecl.members).length + ms.length := by
  induction cs with
  | nil => cases h
  | cons c cs ih =>
    rw [extendFirst]
    by_cases hc : c.key = key
    · simp only [if_pos hc, List.flatMap_cons, List.length_append]
      omega
    · rw [List.map_cons, List.mem_cons] at h
      simp only [if_neg hc, List.flatMap_cons, List.length_append,
        ih (h.resolve_left (Ne.symm hc))]
      omega

theorem extendIn_of_not_mem {files : List SourceDecls} (h : key ∉ keysOf files) :
    extendIn key ms files = files := by
  induction files with
  | nil => rfl
  | cons f files ih =>
    rw [keysOf_cons, List.mem_append, not_or] at h
    rw [extendIn, if_neg (mt List.contains_iff_mem.mp h.1), ih h.2]

theorem memberCount_extendIn {files : List SourceDecls} (h : key ∈ keysOf files) :
    memberCount (extendIn key ms files) = memberCount files + ms.length := by
  induction files with
  | nil => cases h
  | cons f files ih =>
    rw [extendIn]
    by_cases hf : key ∈ f.classes.map ClassDecl.key
    · rw [if_pos (List.contains_iff_mem.mpr hf), memberCount_cons, memberCount_cons,
        length_extendFirst hf]
      omega
    · rw [keysOf_cons, List.mem_append] at h
      rw [if_neg (mt List.contains_iff_mem.mp hf), memberCount_cons, memberCount_cons,
        ih (h.resolve_left hf)]
      omega

/-- The block has one of the keys. -/
def Block.HasKeyIn (keys : List (String × String)) (b : Block) : Prop :=
  ∃ key ∈ keys, b.key? = some key

instance (keys : List (String × String)) (b : Block) : Decidable (b.HasKeyIn keys) :=
  inferInstanceAs (Decidable (∃ key ∈ keys, b.key? = some key))

/-- A block adds members to classes and changes nothing else. -/
theorem map_outline_attach (files : List SourceDecls) (b : Block) :
    (attach files b).map SourceDecls.outline = files.map SourceDecls.outline := by
  rw [attach]
  split
  · exact map_outline_extendIn _ _ files
  · rfl

theorem keysOf_attach (files : List SourceDecls) (b : Block) :
    keysOf (attach files b) = keysOf files := by
  rw [← keysOf_outline, map_outline_attach, keysOf_outline]

/-- A block adds as many members as it has functions, if there is a class for it. -/
theorem memberCount_attach (files : List SourceDecls) (b : Block) :
    memberCount (attach files b) =
      memberCount files + if b.HasKeyIn (keysOf files) then b.body.methods.length else 0 := by
  rw [attach]
  cases hb : b.key? with
  | none =>
    have hdropped : ¬ b.HasKeyIn (keysOf files) := by
      rintro ⟨key, -, hkey⟩
      rw [hb] at hkey
      cases hkey
    rw [if_neg hdropped]
    rfl
  | some key =>
    by_cases hkey : key ∈ keysOf files
    · rw [if_pos ⟨key, hkey, hb⟩, ← Block.length_members hb]
      exact memberCount_extendIn hkey
    · have hdropped : ¬ b.HasKeyIn (keysOf files) := by
        rintro ⟨other, hother, heq⟩
        rw [hb, Option.some.injEq] at heq
        exact hkey (heq ▸ hother)
      rw [if_neg hdropped]
      exact congrArg memberCount (extendIn_of_not_mem hkey)

theorem map_outline_foldl_attach (blocks : List Block) (files : List SourceDecls) :
    (blocks.foldl attach files).map SourceDecls.outline = files.map SourceDecls.outline := by
  induction blocks generalizing files with
  | nil => rfl
  | cons b blocks ih => rw [List.foldl_cons, ih, map_outline_attach]

theorem keysOf_foldl_attach (blocks : List Block) (files : List SourceDecls) :
    keysOf (blocks.foldl attach files) = keysOf files := by
  rw [← keysOf_outline, map_outline_foldl_attach, keysOf_outline]

/-- By induction on the blocks: no block changes for which others there is a class. -/
theorem memberCount_foldl_attach (blocks : List Block) (files : List SourceDecls) :
    memberCount (blocks.foldl attach files) = memberCount files +
      ((blocks.filter (·.HasKeyIn (keysOf files))).flatMap (·.body.methods)).length := by
  induction blocks generalizing files with
  | nil => rfl
  | cons b blocks ih =>
    rw [List.foldl_cons, ih, keysOf_attach, memberCount_attach, List.filter_cons]
    by_cases hb : b.HasKeyIn (keysOf files)
    · rw [if_pos hb, if_pos (decide_eq_true hb), List.flatMap_cons, List.length_append,
        Nat.add_assoc]
    · rw [if_neg hb, if_neg (by rwa [decide_eq_true_iff]), Nat.add_zero]

end Rust

/-! ## Snapshots -/

/-- The classes of outlines with the members of blocks.  The first class of a key has all members
of the blocks with that key, in order, and the others have none.  So as many members are placed
as there are functions in blocks with a class. -/
structure Snapshot.IsJoinOf (outlines : List SourceDecls) (blocks : List Block) (s : Snapshot) :
    Prop where
  outlines : s.files.map SourceDecls.outline = outlines
  first : ∀ earlier c later, s.classes = earlier ++ c :: later →
    c.key ∉ earlier.map ClassDecl.key → c.members = membersAt blocks c.key
  later : ∀ earlier c later, s.classes = earlier ++ c :: later →
    c.key ∈ earlier.map ClassDecl.key → c.members = []
  total : memberCount s.files =
    ((blocks.filter (·.HasKeyIn (keysOf s.files))).flatMap (·.body.methods)).length

theorem Rust.isJoinOf_snapshotOf (files : List SourceText) :
    (snapshotOf (files.map fun f => (f.path, f.sites.flatMap Site.findings))).IsJoinOf
      (files.map SourceText.outline) (files.flatMap SourceText.blocks) := by
  have hmembers : ∀ key : String × String,
      ((files.map fun f => (f.path, f.sites.flatMap Site.findings)).flatMap Prod.snd).flatMap
        (·.membersOf key.1 key.2) = membersAt (files.flatMap SourceText.blocks) key := by
    intro key
    rw [List.flatMap_map, ← List.flatMap_assoc, flatMap_membersOf_sites, List.filterMap_flatMap]
    rfl
  constructor
  case outlines =>
    rw [snapshotOf_eq_foldl, map_outline_foldl_attach, SourceText.map_outline_outline]
  case first =>
    intro earlier c later hclasses hfirst
    obtain ⟨c', rfl⟩ := exists_joined_of_classes hclasses
    have hnone : c'.key ∉ earlier.map ClassDecl.key := hfirst
    rw [key_joined, ← hmembers]
    exact members_joined_of_not_mem hnone
  case later =>
    intro earlier c later hclasses hlater
    obtain ⟨c', rfl⟩ := exists_joined_of_classes hclasses
    have hsome : c'.key ∈ earlier.map ClassDecl.key := hlater
    rw [joined_of_mem hsome]
    rfl
  case total =>
    have hnone : memberCount (files.map SourceText.outline) = 0 := by
      rw [← SourceText.map_outline_outline, memberCount_outline]
    rw [snapshotOf_eq_foldl, memberCount_foldl_attach, keysOf_foldl_attach, hnone, Nat.zero_add]

/-- Wherever the blocks stand, the snapshot is the same. -/
theorem ofRust_placement {files files' : List SourceText}
    (hread : ∀ f ∈ files, (items? f.text).isSome) (hread' : ∀ f ∈ files', (items? f.text).isSome)
    (houtline : files.map SourceText.outline = files'.map SourceText.outline)
    (hblocks : files.flatMap SourceText.blocks = files'.flatMap SourceText.blocks) :
    ∃ snapshot, Snapshot.ofRust files = .ok snapshot ∧ Snapshot.ofRust files' = .ok snapshot ∧
      snapshot.IsJoinOf (files.map SourceText.outline) (files.flatMap SourceText.blocks) := by
  refine ⟨_, Snapshot.ofRust_eq hread, ?_, isJoinOf_snapshotOf files⟩
  rw [Snapshot.ofRust_eq hread', snapshotOf_eq_foldl, snapshotOf_eq_foldl, houtline, hblocks]

/-- Blocks in a file before their type or behind it.  A trait's functions count as well, a block in
a module without its type adds nothing, and a second type of the name gets nothing. -/
theorem ofRust_placement_behind :
    let types : SourceText := ⟨"b.rs", "app", "pub struct A;enum A\x7b\x7d"⟩
    let text := "impl A\x7bfn run()\x7b\x7d\x7dimpl T for A\x7bfn go()\x7b\x7d\x7d" ++
      "mod m\x7bimpl A\x7bfn no()\x7b\x7d\x7d\x7d"
    let files : List SourceText := [⟨"a.rs", "app", text⟩, types, ⟨"c.rs", "app", ""⟩]
    let files' : List SourceText := [⟨"a.rs", "app", ""⟩, types, ⟨"c.rs", "app", text⟩]
    (∀ f ∈ files, (items? f.text).isSome) ∧ (∀ f ∈ files', (items? f.text).isSome) ∧
      files.map SourceText.outline = files'.map SourceText.outline ∧
      files.flatMap SourceText.blocks = files'.flatMap SourceText.blocks ∧
      ∃ snapshot, Snapshot.ofRust files = .ok snapshot ∧ Snapshot.ofRust files' = .ok snapshot ∧
        snapshot.IsJoinOf (files.map SourceText.outline) (files.flatMap SourceText.blocks) ∧
        snapshot.classes =
          [⟨"A", "app", .everywhere,
            [⟨"run", .ordinary, .hidden, "()"⟩, ⟨"go", .traitImpl, .everywhere, "()"⟩]⟩,
           ⟨"A", "app", .hidden, []⟩] := by
  intro types text files files'
  have hread : ∀ f ∈ files, (items? f.text).isSome := by decide +kernel
  have hsame : ∀ f' ∈ files', ∃ f ∈ files, f.text = f'.text := by decide
  have hread' : ∀ f' ∈ files', (items? f'.text).isSome := by
    intro f' hf'
    obtain ⟨f, hf, htext⟩ := hsame f' hf'
    exact htext ▸ hread f hf
  have houtline : files.map SourceText.outline = files'.map SourceText.outline := by
    decide +kernel
  have hempty : SourceText.blocks ⟨"a.rs", "app", ""⟩ = [] := by decide +kernel
  have htypes : types.blocks = [] := by decide +kernel
  have hblocks : files.flatMap SourceText.blocks = files'.flatMap SourceText.blocks := by
    change SourceText.blocks ⟨"a.rs", "app", text⟩ ++ (types.blocks ++
        (SourceText.blocks ⟨"a.rs", "app", ""⟩ ++ [])) =
      SourceText.blocks ⟨"a.rs", "app", ""⟩ ++ (types.blocks ++
        (SourceText.blocks ⟨"a.rs", "app", text⟩ ++ []))
    rw [hempty, htypes]
    rfl
  refine ⟨hread, hread', houtline, hblocks, ?_⟩
  obtain ⟨snapshot, hfiles, hfiles', hjoin⟩ := ofRust_placement hread hread' houtline hblocks
  refine ⟨snapshot, hfiles, hfiles', hjoin, ?_⟩
  have hclasses : (Snapshot.ofRust files).toOption.map Snapshot.classes = some
      [⟨"A", "app", .everywhere,
        [⟨"run", .ordinary, .hidden, "()"⟩, ⟨"go", .traitImpl, .everywhere, "()"⟩]⟩,
       ⟨"A", "app", .hidden, []⟩] := by decide +kernel
  rw [hfiles] at hclasses
  exact Option.some.inj hclasses

end ServiceStubs
