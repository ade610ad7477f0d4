import Mathlib.Data.List.Nodup
import ServiceStubs.Proofs.Json.Unambiguous

/-!
# What an object gives

A record with lawful fields is read from an object exactly if the object gives a value for each
field: at most one text for its key, which writes that value, or none, if the field has a value of
its own for that.  So neither the order of the members counts, nor what stands under other keys.
-/

namespace ServiceStubs.Json

variable {α σ : Type} {key name : String} {text word : List Char} {texts : List (List Char)}
variable {members members' : List (String × List Char)} {L L' : List Char → α → Prop} {a : α}
variable {absent : Option α}

/-! ## The texts for a key -/

/-- The texts that the members of an object hold for a key. -/
def textsOf (key : String) (members : List (String × List Char)) : List (List Char) :=
  (members.filter (·.1 == key)).map Prod.snd

theorem textsOf_cons_self (key : String) (text : List Char) (members : List (String × List Char)) :
    textsOf key ((key, text) :: members) = text :: textsOf key members := by
  simp [textsOf]

theorem textsOf_cons_of_ne (h : name ≠ key) (text : List Char)
    (members : List (String × List Char)) :
    textsOf key ((name, text) :: members) = textsOf key members := by
  simp [textsOf, h]

theorem textsOf_append (key : String) (members members' : List (String × List Char)) :
    textsOf key (members ++ members') = textsOf key members ++ textsOf key members' := by
  rw [textsOf, List.filter_append, List.map_append]
  rfl

theorem textsOf_perm (key : String) (h : members.Perm members') :
    (textsOf key members).Perm (textsOf key members') :=
  (h.filter _).map _

theorem textsOf_eq_nil : textsOf key members = [] ↔ key ∉ members.map Prod.fst := by
  rw [textsOf, List.map_eq_nil_iff, List.filter_eq_nil_iff, List.mem_map]
  simp only [beq_iff_eq, not_exists, not_and]

theorem mem_textsOf : text ∈ textsOf key members ↔ (key, text) ∈ members := by
  simp [textsOf]

theorem length_textsOf (key : String) (members : List (String × List Char)) :
    (textsOf key members).length = (members.map Prod.fst).count key := by
  rw [textsOf, List.length_map, ← List.countP_eq_length_filter, List.count, List.countP_map]
  rfl

/-- The value that the texts for a key give: that which the only one writes, or, if there is none,
that which stands for none. -/
inductive Gives (L : List Char → α → Prop) (absent : Option α) : List (List Char) → α → Prop where
  | absent {a : α} (h : absent = some a) : Gives L absent [] a
  | once {text : List Char} {a : α} (h : L text a) : Gives L absent [text] a

namespace Gives

theorem mono (hL : ∀ text a, L text a → L' text a) (h : Gives L absent texts a) :
    Gives L' absent texts a := by
  cases h with
  | absent h => exact .absent h
  | once h => exact .once (hL _ _ h)

theorem length_le_one (h : Gives L absent texts a) : texts.length ≤ 1 := by
  cases h with
  | absent => exact Nat.zero_le 1
  | once => exact Nat.le_refl 1

theorem of_mem (h : Gives L absent texts a) (hmem : text ∈ texts) : L text a := by
  cases h with
  | absent => cases hmem
  | once h =>
    obtain rfl := List.mem_singleton.mp hmem
    exact h

theorem cons_iff : Gives L absent (text :: texts) a ↔ texts = [] ∧ L text a := by
  constructor
  · rintro (_ | h)
    exact ⟨rfl, h⟩
  · rintro ⟨rfl, h⟩
    exact .once h

end Gives

/-! ## Fields -/

/-- A field with its key, its place in the record, what is read for it, and the value it has when
its key is left out, if it may be. -/
structure Slot (σ : Type) where
  α : Type
  key : String
  get : σ → α
  put : α → σ → σ
  read : Reader α
  writes : List Char → α → Prop
  recognizes : Recognizes read writes
  absent : Option α

/-- The field as it is read. -/
def Slot.field (slot : Slot σ) : Field σ :=
  .of slot.key slot.absent.isNone slot.read slot.put

/-- The object gives the value that the record has in the slot. -/
def Slot.IsGiven (slot : Slot σ) (members : List (String × List Char)) (record : σ) : Prop :=
  Gives slot.writes slot.absent (textsOf slot.key members) (slot.get record)

/-- The slots are the fields of the shape: places that do not overlap and are all that a record
has. -/
structure Shape.IsLaidOut (shape : Shape σ) (slots : List (Slot σ)) : Prop where
  fields : shape.fields = slots.map Slot.field
  nodup : (slots.map Slot.key).Nodup
  get_put : ∀ slot ∈ slots, ∀ v record, slot.get (slot.put v record) = v
  get_put_of_ne : ∀ slot ∈ slots, ∀ other ∈ slots, slot.key ≠ other.key → ∀ v record,
    slot.get (other.put v record) = slot.get record
  blank : ∀ slot ∈ slots, ∀ a ∈ slot.absent, slot.get shape.blank = a
  ext : ∀ record record', (∀ slot ∈ slots, slot.get record = slot.get record') → record = record'

/-- What the text of a key sets. -/
def Sets (slots : List (Slot σ)) (key : String) (text : List Char) (set : σ → σ) : Prop :=
  ∃ slot ∈ slots, slot.key = key ∧ ∃ a, slot.writes text a ∧ set = slot.put a

namespace Shape.IsLaidOut

variable {shape : Shape σ} {slots : List (Slot σ)} {slot other : Slot σ}
variable {seen : List String} {record record' : σ} {set : σ → σ}

theorem eq_of_key (h : shape.IsLaidOut slots) (hslot : slot ∈ slots) (hother : other ∈ slots)
    (hkey : slot.key = other.key) : slot = other :=
  List.inj_on_of_nodup_map h.nodup hslot hother hkey

theorem sets_key (h : shape.IsLaidOut slots) (hslot : slot ∈ slots) :
    Sets slots slot.key text set ↔ ∃ a, slot.writes text a ∧ set = slot.put a := by
  constructor
  · rintro ⟨other, hother, hkey, hset⟩
    rwa [h.eq_of_key hother hslot hkey] at hset
  · exact fun hset => ⟨slot, hslot, rfl, hset⟩

theorem recognizes_fields (h : shape.IsLaidOut slots) :
    ∀ f ∈ shape.fields, Recognizes f.read (Sets slots f.key) := by
  rw [h.fields, List.forall_mem_map]
  intro slot hslot
  exact (slot.recognizes.field slot.key slot.absent.isNone slot.put).of_iff
    fun _ _ => (h.sets_key hslot).symm

theorem mem_keys (h : shape.IsLaidOut slots) :
    key ∈ shape.fields.map Field.key ↔ ∃ slot ∈ slots, slot.key = key := by
  rw [h.fields, List.map_map, List.mem_map]
  rfl

/-! ### Members one by one -/

/-- What becomes of a slot with the members that are left: it keeps its value if its key was seen,
and then the key may not come again. -/
def Pending (slot : Slot σ) (seen : List String) (record : σ)
    (members : List (String × List Char)) (record' : σ) : Prop :=
  if slot.key ∈ seen then textsOf slot.key members = [] ∧ slot.get record' = slot.get record
  else slot.IsGiven members record'

/-- A member with another key leaves the slot as it is, whatever it does to the record. -/
theorem pending_cons_of_ne {before : σ} (hname : name ≠ slot.key)
    (hget : slot.get before = slot.get record) :
    Pending slot seen record ((name, text) :: members) record' ↔
      Pending slot (name :: seen) before members record' := by
  have hseen : slot.key ∈ name :: seen ↔ slot.key ∈ seen := by
    rw [List.mem_cons]
    exact or_iff_right hname.symm
  rw [Pending, Pending, Slot.IsGiven, Slot.IsGiven, textsOf_cons_of_ne hname, hget]
  simp only [hseen]

/-- A member with the key of the slot: it must be new, and it settles what the slot holds. -/
theorem pending_cons_self (hget : ∀ v record, slot.get (slot.put v record) = v) :
    Pending slot seen record ((slot.key, text) :: members) record' ↔
      slot.key ∉ seen ∧ ∃ a, slot.writes text a ∧
        Pending slot (slot.key :: seen) (slot.put a record) members record' := by
  have hafter : ∀ a, Pending slot (slot.key :: seen) (slot.put a record) members record' ↔
      textsOf slot.key members = [] ∧ slot.get record' = a := by
    intro a
    rw [Pending, if_pos List.mem_cons_self, hget]
  simp only [hafter]
  by_cases hkey : slot.key ∈ seen
  · rw [Pending, if_pos hkey, textsOf_cons_self]
    exact ⟨fun h => absurd h.1 (List.cons_ne_nil _ _), fun h => absurd hkey h.1⟩
  · rw [Pending, if_neg hkey, Slot.IsGiven, textsOf_cons_self, Gives.cons_iff]
    constructor
    · rintro ⟨hrest, h⟩
      exact ⟨hkey, _, h, hrest, rfl⟩
    · rintro ⟨-, a, h, hrest, rfl⟩
      exact ⟨hrest, h⟩

theorem pending_nil (hunset : slot.key ∉ seen → ∀ a ∈ slot.absent, slot.get record = a) :
    Pending slot seen record [] record' ↔
      (slot.absent = none → slot.key ∈ seen) ∧ slot.get record' = slot.get record := by
  by_cases hkey : slot.key ∈ seen
  · rw [Pending, if_pos hkey]
    exact ⟨fun h => ⟨fun _ => hkey, h.2⟩, fun h => ⟨rfl, h.2⟩⟩
  · rw [Pending, if_neg hkey]
    constructor
    · rintro (⟨h⟩ | _)
      refine ⟨fun hnone => ?_, (hunset hkey _ h).symm⟩
      rw [hnone] at h
      cases h
    · rintro ⟨hrequired, hget⟩
      obtain ⟨a, ha⟩ := Option.ne_none_iff_exists'.mp (mt hrequired hkey)
      refine .absent ?_
      rw [hget, hunset hkey a ha, ha]

/-- A member with the key of a slot: the key is new, and its value is all that is settled. -/
theorem pending_known (h : shape.IsLaidOut slots) (hslot : slot ∈ slots) :
    (∀ other ∈ slots, Pending other seen record ((slot.key, text) :: members) record') ↔
      slot.key ∉ seen ∧ ∃ a, slot.writes text a ∧ ∀ other ∈ slots,
        Pending other (slot.key :: seen) (slot.put a record) members record' := by
  have hothers : ∀ a, ∀ other ∈ slots, other.key ≠ slot.key →
      (Pending other seen record ((slot.key, text) :: members) record' ↔
        Pending other (slot.key :: seen) (slot.put a record) members record') :=
    fun a other hother hne =>
      pending_cons_of_ne hne.symm (h.get_put_of_ne other hother slot hslot hne a record)
  have hself : Pending slot seen record ((slot.key, text) :: members) record' ↔ _ :=
    pending_cons_self (h.get_put slot hslot)
  constructor
  · intro hall
    obtain ⟨hnew, a, ha, hpending⟩ := hself.mp (hall slot hslot)
    refine ⟨hnew, a, ha, fun other hother => ?_⟩
    by_cases hkey : other.key = slot.key
    · obtain rfl := h.eq_of_key hother hslot hkey
      exact hpending
    · exact (hothers a other hother hkey).mp (hall other hother)
  · rintro ⟨hnew, a, ha, hpending⟩ other hother
    by_cases hkey : other.key = slot.key
    · obtain rfl := h.eq_of_key hother hslot hkey
      exact hself.mpr ⟨hnew, a, ha, hpending other hother⟩
    · exact (hothers a other hother hkey).mpr (hpending other hother)

/-- The members of an object are stored exactly if each slot is given what the record has in it. -/
theorem stores_iff (h : shape.IsLaidOut slots)
    (hunset : ∀ slot ∈ slots, slot.key ∉ seen → ∀ a ∈ slot.absent, slot.get record = a) :
    shape.Stores (Sets slots) seen record members record' ↔
      ∀ slot ∈ slots, Pending slot seen record members record' := by
  induction members generalizing seen record with
  | nil =>
    constructor
    · rintro ⟨hseen⟩ slot hslot
      refine (pending_nil (hunset slot hslot)).mpr ⟨fun hnone => ?_, rfl⟩
      have hfield : slot.field ∈ shape.fields := by
        rw [h.fields]
        exact List.mem_map_of_mem hslot
      exact hseen slot.field hfield (by rw [Slot.field, Field.of, hnone]; rfl)
    · intro hall
      have hslot := fun slot hslot => (pending_nil (hunset slot hslot)).mp (hall slot hslot)
      obtain rfl : record' = record := h.ext _ _ fun slot hmem => (hslot slot hmem).2
      refine .done ?_
      rw [h.fields, List.forall_mem_map]
      intro slot hmem hrequired
      exact (hslot slot hmem).1 (Option.isNone_iff_eq_none.mp hrequired)
  | cons member members ih =>
    obtain ⟨name, text⟩ := member
    by_cases hname : ∃ slot ∈ slots, slot.key = name
    · obtain ⟨slot, hslot, rfl⟩ := hname
      have hunset' : ∀ a, ∀ other ∈ slots, other.key ∉ slot.key :: seen → ∀ b ∈ other.absent,
          other.get (slot.put a record) = b := by
        intro a other hother hkey b hb
        obtain ⟨hne, hseen⟩ := not_or.mp (mt List.mem_cons.mpr hkey)
        rw [h.get_put_of_ne other hother slot hslot hne]
        exact hunset other hother hseen b hb
      rw [h.pending_known hslot]
      constructor
      · intro hstores
        cases hstores with
        | other hkey => exact absurd (h.mem_keys.mpr ⟨slot, hslot, rfl⟩) hkey
        | field _ hnew hsets hrest =>
          obtain ⟨a, ha, rfl⟩ := (h.sets_key hslot).mp hsets
          exact ⟨hnew, a, ha, (ih (hunset' a)).mp hrest⟩
      · rintro ⟨hnew, a, ha, hpending⟩
        exact .field (h.mem_keys.mpr ⟨slot, hslot, rfl⟩) hnew
          ((h.sets_key hslot).mpr ⟨a, ha, rfl⟩) ((ih (hunset' a)).mpr hpending)
    · have hkeys : name ∉ shape.fields.map Field.key := mt h.mem_keys.mp hname
      have hothers : ∀ slot ∈ slots, (Pending slot seen record ((name, text) :: members) record' ↔
          Pending slot seen record members record') := by
        intro slot hslot
        have hne : name ≠ slot.key := fun heq => hname ⟨slot, hslot, heq.symm⟩
        rw [Pending, Pending, Slot.IsGiven, Slot.IsGiven, textsOf_cons_of_ne hne]
      rw [forall₂_congr hothers, ← ih hunset]
      constructor
      · intro hstores
        cases hstores with
        | other _ hrest => exact hrest
        | field hkey => exact absurd hkey hkeys
      · exact .other hkeys

/-- A record is stored from the members of an object exactly if they give each of its slots. -/
theorem stores_blank_iff (h : shape.IsLaidOut slots) :
    shape.Stores (Sets slots) [] shape.blank members record ↔
      ∀ slot ∈ slots, slot.IsGiven members record := by
  rw [h.stores_iff fun slot hslot _ => h.blank slot hslot]
  refine forall₂_congr fun slot _ => ?_
  rw [Pending, if_neg List.not_mem_nil]

theorem recognizes (h : shape.IsLaidOut slots) :
    Recognizes shape.read (shape.Reads (Sets slots)) :=
  Shape.recognizes_read h.recognizes_fields

/-- An object is read as a record exactly if its members give each of the slots. -/
theorem reads_object_iff (h : shape.IsLaidOut slots) (hobject : IsObject members word) :
    shape.Reads (Sets slots) word record ↔ ∀ slot ∈ slots, slot.IsGiven members record := by
  rw [← h.stores_blank_iff]
  constructor
  · rintro (⟨hobject', hstores⟩ | ⟨hlist, -⟩)
    · rwa [hobject.unique hobject']
    · exact absurd hlist hobject.not_isList
  · exact .object hobject

end Shape.IsLaidOut

end ServiceStubs.Json
