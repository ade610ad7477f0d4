import ServiceStubs.Proofs.Json.Compact
import ServiceStubs.Proofs.Json.Members

/-!
# Variants of a written value

A text that is written for a value may be changed without a change in what it holds: strings may be
spelled in another way, blanks may be added, and in each object the members may change places, other
keys may be added, and keys that may be left out for an empty list may be left out.  A reader of
records takes all of these variants for the record.
-/

namespace ServiceStubs.Json

open ServiceStubs.Json.Value (compact)

variable {optional : List String} {v : Value} {key : String} {word : List Char}
variable {members : List (String × Value)} {kept : List (String × List Char)}
variable {texts : List (List Char)} {items : List Value}

mutual

/-- The text is a variant of what is written for the value.  The keys are those that may be left out
for an empty list. -/
inductive Varies (optional : List String) : Value → List Char → Prop where
  | null : Varies optional .null ['n', 'u', 'l', 'l']
  | string {s : String} {word : List Char} (h : IsString word s) : Varies optional (.string s) word
  | list {items : List Value} {values : List (List Char)} {word : List Char}
      (h : IsList values word) (hitems : VaryItems optional items values) :
      Varies optional (.list items) word
  | object {members : List (String × Value)} {found kept others : List (String × List Char)}
      {word : List Char} (h : IsObject found word) (hfound : found.Perm (kept ++ others))
      (hkept : VaryMembers optional members kept)
      (hothers : ∀ other ∈ others, other.1 ∉ members.map Prod.fst) :
      Varies optional (.object members) word

/-- The texts are variants of the items. -/
inductive VaryItems (optional : List String) : List Value → List (List Char) → Prop where
  | nil : VaryItems optional [] []
  | cons {v : Value} {text : List Char} {items : List Value} {values : List (List Char)}
      (h : Varies optional v text) (hrest : VaryItems optional items values) :
      VaryItems optional (v :: items) (text :: values)

/-- The texts are variants of the members, but for some that are left out. -/
inductive VaryMembers (optional : List String) :
    List (String × Value) → List (String × List Char) → Prop where
  | nil : VaryMembers optional [] []
  | kept {key : String} {v : Value} {text : List Char} {members : List (String × Value)}
      {kept : List (String × List Char)} (h : Varies optional v text)
      (hrest : VaryMembers optional members kept) :
      VaryMembers optional ((key, v) :: members) ((key, text) :: kept)
  | leftOut {key : String} {members : List (String × Value)} {kept : List (String × List Char)}
      (h : key ∈ optional) (hrest : VaryMembers optional members kept) :
      VaryMembers optional ((key, .list []) :: members) kept

end

/-! ## What is written is a variant -/

mutual

theorem varies_compact (optional : List String) (v : Value) : Varies optional v v.compact := by
  match v with
  | .null =>
    rw [compact]
    exact .null
  | .string s =>
    rw [compact]
    exact .string (isString_encodeString s)
  | .list items => exact .list (isList_compact items) (varyItems_compact optional items)
  | .object members =>
    exact .object (isObject_compact members) (List.append_nil _ ▸ .refl _)
      (varyMembers_compact optional members) (List.forall_mem_nil _)

theorem varyItems_compact (optional : List String) (items : List Value) :
    VaryItems optional items (items.map compact) := by
  match items with
  | [] => exact .nil
  | v :: items => exact .cons (varies_compact optional v) (varyItems_compact optional items)

theorem varyMembers_compact (optional : List String) (members : List (String × Value)) :
    VaryMembers optional members (compactOf members) := by
  match members with
  | [] => exact .nil
  | (key, v) :: members =>
    exact .kept (varies_compact optional v) (varyMembers_compact optional members)

end

/-- Members of a written object may change places, and others may be added to them. -/
theorem Varies.object_compact {found others : List (String × Value)} {kept : List (String × Value)}
    (hfound : found.Perm (kept ++ others)) (hkept : VaryMembers optional members (compactOf kept))
    (hothers : ∀ other ∈ others, other.1 ∉ members.map Prod.fst) :
    Varies optional (.object members) (compact (.object found)) := by
  have hperm := hfound.map fun member : String × Value => (member.1, member.2.compact)
  rw [List.map_append] at hperm
  refine .object (isObject_compact found) hperm hkept ?_
  rintro _ hother
  obtain ⟨other, hmem, rfl⟩ := List.mem_map.mp hother
  exact hothers other hmem

/-! ## The texts for a key -/

/-- The texts for a key of the written object: one, which is a variant of the value, or none. -/
inductive VariesAt (optional : List String) (key : String) : Value → List (List Char) → Prop where
  | kept {v : Value} {text : List Char} (h : Varies optional v text) :
      VariesAt optional key v [text]
  | leftOut (h : key ∈ optional) : VariesAt optional key (.list []) []

theorem VaryMembers.keys_subset (h : VaryMembers optional members kept) :
    kept.map Prod.fst ⊆ members.map Prod.fst := by
  induction members generalizing kept with
  | nil =>
    cases h
    exact List.nil_subset _
  | cons member members ih =>
    cases h with
    | kept _ hrest => exact List.cons_subset_cons _ (ih hrest)
    | leftOut _ hrest => exact List.subset_cons_of_subset _ (ih hrest)

theorem VaryMembers.variesAt (h : VaryMembers optional members kept)
    (hnodup : (members.map Prod.fst).Nodup) (hmem : (key, v) ∈ members) :
    VariesAt optional key v (textsOf key kept) := by
  induction members generalizing kept with
  | nil => cases hmem
  | cons member members ih =>
    obtain ⟨hnew, hdistinct⟩ := List.nodup_cons.mp hnodup
    rcases List.mem_cons.mp hmem with rfl | hlater
    · have hrest : ∀ kept, VaryMembers optional members kept → textsOf key kept = [] :=
        fun kept hkept => textsOf_eq_nil.mpr fun hkey => hnew (hkept.keys_subset hkey)
      cases h with
      | kept h hkept =>
        rw [textsOf_cons_self, hrest _ hkept]
        exact .kept h
      | leftOut hkey hkept =>
        rw [hrest _ hkept]
        exact .leftOut hkey
    · have hne : member.1 ≠ key :=
        fun heq => hnew (List.mem_map.mpr ⟨(key, v), hlater, heq.symm⟩)
      cases h with
      | kept _ hkept =>
        rw [textsOf_cons_of_ne hne]
        exact ih hkept hdistinct hlater
      | leftOut _ hkept => exact ih hkept hdistinct hlater

/-- What a variant of an object holds: neither the order nor other keys matter. -/
theorem Varies.exists_members (h : Varies optional (.object members) word)
    (hnodup : (members.map Prod.fst).Nodup) :
    ∃ found, IsObject found word ∧ ∀ key v, (key, v) ∈ members →
      VariesAt optional key v (textsOf key found) := by
  cases h with
  | @object _ found kept others _ hobject hfound hkept hothers =>
    refine ⟨found, hobject, fun key v hmem => ?_⟩
    have hnone : textsOf key others = [] := by
      refine textsOf_eq_nil.mpr fun hkey => ?_
      obtain ⟨other, hother, rfl⟩ := List.mem_map.mp hkey
      exact hothers other hother (List.mem_map_of_mem hmem)
    have hperm := textsOf_perm key hfound
    rw [textsOf_append, hnone, List.append_nil] at hperm
    have hat := hkept.variesAt hnodup hmem
    generalize textsOf key kept = texts at hat hperm
    cases hat with
    | kept h =>
      rw [List.perm_singleton.mp hperm]
      exact .kept h
    | leftOut h =>
      rw [List.perm_nil.mp hperm]
      exact .leftOut h

/-! ## Readers take variants -/

section

variable {α σ : Type} {L : List Char → α → Prop} {as : List α} {f : α → Value}
variable {shape : Shape σ} {slots : List (Slot σ)} {record : σ}

theorem VaryItems.forall₂ {values : List (List Char)} (h : VaryItems optional (as.map f) values)
    (hf : ∀ a ∈ as, ∀ text, Varies optional (f a) text → L text a) : List.Forall₂ L values as := by
  induction as generalizing values with
  | nil =>
    cases h
    exact .nil
  | cons a as ih =>
    obtain ⟨ha, has⟩ := List.forall_mem_cons.mp hf
    cases h with
    | cons h hrest => exact .cons (ha _ h) (ih hrest has)

theorem ListOf.of_varies (h : Varies optional (.list (as.map f)) word)
    (hf : ∀ a ∈ as, ∀ text, Varies optional (f a) text → L text a) : ListOf L word as := by
  cases h with
  | list hlist hitems => exact .intro hlist (hitems.forall₂ hf)

theorem IsString.of_varies {s : String} (h : Varies optional (.string s) word) :
    IsString word s := by
  cases h with
  | string h => exact h

/-- The member is written for what the record has in the slot. -/
structure Slot.IsWrittenAs (optional : List String) (record : σ) (slot : Slot σ)
    (member : String × Value) : Prop where
  key : slot.key = member.1
  writes : ∀ text, Varies optional member.2 text → slot.writes text (slot.get record)
  absent : member.1 ∈ optional → member.2 = .list [] → slot.absent = some (slot.get record)

namespace Slot.IsWrittenAs

variable {get : σ → α} {put : α → σ → σ} {read : Reader α}

theorem string {get : σ → String} {put : String → σ → σ} :
    IsWrittenAs optional record ⟨String, key, get, put, _, _, recognizes_string, none⟩
      (key, .string (get record)) :=
  ⟨rfl, fun _ => IsString.of_varies, nofun⟩

theorem tag {tags : List (String × α)} {name : String} (h : tagOf? tags name = some (get record)) :
    IsWrittenAs optional record ⟨α, key, get, put, _, _, recognizes_tag tags, none⟩
      (key, .string name) :=
  ⟨rfl, fun _ hvaries => .bare (.of_varies hvaries) h, nofun⟩

/-- A list may be left out where nothing given means that it is empty. -/
theorem list {get : σ → List α} {put : List α → σ → σ} (hread : Recognizes read L)
    (h : ∀ a ∈ get record, ∀ text, Varies optional (f a) text → L text a) :
    IsWrittenAs optional record ⟨List α, key, get, put, _, _, recognizes_list hread, some []⟩
      (key, .list ((get record).map f)) := by
  refine ⟨rfl, fun _ hvaries => .of_varies hvaries h, fun _ hempty => ?_⟩
  exact congrArg some (List.map_eq_nil_iff.mp (Value.list.inj hempty)).symm

/-- What must be given is not left out. -/
theorem required {hread : Recognizes read L} (hkey : key ∉ optional)
    (h : ∀ text, Varies optional v text → L text (get record)) :
    IsWrittenAs optional record ⟨α, key, get, put, _, _, hread, none⟩ (key, v) :=
  ⟨rfl, h, fun hoptional => absurd hoptional hkey⟩

end Slot.IsWrittenAs

theorem Slot.IsWrittenAs.gives {slot : Slot σ} {member : String × Value}
    (h : slot.IsWrittenAs optional record member)
    (hat : VariesAt optional member.1 member.2 texts) :
    Gives slot.writes slot.absent texts (slot.get record) := by
  obtain ⟨key, v⟩ := member
  cases hat with
  | kept hvaries => exact .once (h.writes _ hvaries)
  | leftOut hoptional => exact .absent (h.absent hoptional rfl)

/-- A record is read from every variant of an object that has a member for each of its slots. -/
theorem Shape.IsLaidOut.reads_of_varies (h : shape.IsLaidOut slots)
    (hwritten : List.Forall₂ (Slot.IsWrittenAs optional record) slots members)
    (hvaries : Varies optional (.object members) word) : shape.Reads (Sets slots) word record := by
  have hkeys : slots.map Slot.key = members.map Prod.fst := by
    clear h hvaries
    induction hwritten with
    | nil => rfl
    | cons hfirst _ ih => rw [List.map_cons, List.map_cons, hfirst.key, ih]
  obtain ⟨found, hobject, hat⟩ := hvaries.exists_members (hkeys ▸ h.nodup)
  refine (h.reads_object_iff hobject).mpr fun slot hslot => ?_
  obtain ⟨member, hmem, hslotwritten⟩ := exists_mem_of_forall₂ hwritten hslot
  rw [Slot.IsGiven, hslotwritten.key]
  exact hslotwritten.gives (hat _ _ hmem)

end

end ServiceStubs.Json
