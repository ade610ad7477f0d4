import ServiceStubs.Proofs.Json.Values

/-!
# The compact layout is JSON

What the compact layout writes for a value is a text of the grammar: a string spells what it was
written for, a list holds the texts of its items, and an object those of its members.
-/

namespace ServiceStubs.Json

open ServiceStubs.Json.Value (compact compactItems compactMembers encodeString)

/-- A written string spells what it was written for. -/
theorem isString_encodeString (s : String) : IsString (encodeString s) s := by
  obtain ⟨word, hword, heq⟩ := readStringBody_eq_ok.mp (readStringBody_encode s [])
  exact ⟨word, hword, congrArg (List.cons '"') heq⟩

/-! ## Rows -/

/-- Pieces with commas between them are a row. -/
theorem Separated.row {β : Type} {P : β → List Char → Prop} {written : List Char} {bs : List β}
    (h : Separated (fun piece b => P b piece) written bs) (first : Bool) :
    Row P first bs (lead first ++ written) := by
  induction h generalizing first with
  | @last piece b h =>
    have hrow : Row P first [b] ([] ++ (lead first ++ (piece ++ []))) :=
      .cons isGap_nil h (.nil isGap_nil)
    rwa [List.append_nil] at hrow
  | cons h _ ih => exact .cons isGap_nil h (ih false)

theorem separated_compactItems {items : List Value} (hne : items ≠ [])
    (h : ∀ v ∈ items, IsValue v.compact) :
    Separated (fun piece value => IsItem value piece) (compactItems items) (items.map compact) := by
  induction items with
  | nil => exact absurd rfl hne
  | cons v items ih =>
    obtain ⟨hv, hitems⟩ := List.forall_mem_cons.mp h
    cases items with
    | nil => exact .last (.intro isGap_nil hv)
    | cons v' items => exact .cons (.intro isGap_nil hv) (ih (List.cons_ne_nil _ _) hitems)

/-- The texts of the members of a written object. -/
def compactOf (members : List (String × Value)) : List (String × List Char) :=
  members.map fun member => (member.1, member.2.compact)

theorem isMember_compact (key : String) {v : Value} (h : IsValue v.compact) :
    IsMember (key, v.compact) (encodeString key ++ ':' :: v.compact) := by
  obtain ⟨word, hword, heq⟩ := isString_encodeString key
  rw [heq, List.cons_append, List.append_assoc]
  exact .intro isGap_nil hword isGap_nil isGap_nil h

theorem separated_compactMembers {members : List (String × Value)} (hne : members ≠ [])
    (h : ∀ member ∈ members, IsValue member.2.compact) :
    Separated (fun piece member => IsMember member piece) (compactMembers members)
      (compactOf members) := by
  induction members with
  | nil => exact absurd rfl hne
  | cons member members ih =>
    obtain ⟨hmember, hmembers⟩ := List.forall_mem_cons.mp h
    cases members with
    | nil => exact .last (isMember_compact member.1 hmember)
    | cons member' members =>
      exact .cons (isMember_compact member.1 hmember) (ih (List.cons_ne_nil _ _) hmembers)

theorem isList_compact_of {items : List Value} (h : ∀ v ∈ items, IsValue v.compact) :
    IsList (items.map compact) (compact (.list items)) := by
  rw [compact]
  cases items with
  | nil => exact ⟨[], .nil isGap_nil, rfl⟩
  | cons v items => exact ⟨_, (separated_compactItems (List.cons_ne_nil _ _) h).row true, rfl⟩

theorem isObject_compact_of {members : List (String × Value)}
    (h : ∀ member ∈ members, IsValue member.2.compact) :
    IsObject (compactOf members) (compact (.object members)) := by
  rw [compact]
  cases members with
  | nil => exact ⟨[], .nil isGap_nil, rfl⟩
  | cons member members =>
    exact ⟨_, (separated_compactMembers (List.cons_ne_nil _ _) h).row true, rfl⟩

/-! ## Values -/

mutual

theorem isValue_compact (v : Value) : IsValue v.compact := by
  cases v with
  | null =>
    rw [compact]
    exact .null
  | string s =>
    rw [compact]
    exact (isString_encodeString s).isValue
  | list items => exact (isList_compact_of (isValue_compactItems items)).isValue
  | object members => exact (isObject_compact_of (isValue_compactMembers members)).isValue

theorem isValue_compactItems (items : List Value) : ∀ v ∈ items, IsValue v.compact := by
  cases items with
  | nil => exact List.forall_mem_nil _
  | cons v items => exact List.forall_mem_cons.mpr ⟨isValue_compact v, isValue_compactItems items⟩

theorem isValue_compactMembers (members : List (String × Value)) :
    ∀ member ∈ members, IsValue member.2.compact := by
  match members with
  | [] => exact List.forall_mem_nil _
  | (key, v) :: members =>
    exact List.forall_mem_cons.mpr ⟨isValue_compact v, isValue_compactMembers members⟩

end

theorem isList_compact (items : List Value) :
    IsList (items.map compact) (compact (.list items)) :=
  isList_compact_of (isValue_compactItems items)

theorem isObject_compact (members : List (String × Value)) :
    IsObject (compactOf members) (compact (.object members)) :=
  isObject_compact_of (isValue_compactMembers members)

/-- A written list is a list of what its items write. -/
theorem listOf_compact {α : Type} {L : List Char → α → Prop} {items : List Value} {as : List α}
    (h : List.Forall₂ (fun v a => L v.compact a) items as) :
    ListOf L (compact (.list items)) as :=
  .intro (isList_compact items) (List.forall₂_map_left_iff.mpr h)

/-- A compact text has nothing around its value. -/
theorem isDocument_compactText {P : List Char → Prop} {v : Value} (h : P v.compact) :
    IsDocument P v.compactText := by
  refine ⟨[], v.compact, [], isGap_nil, h, isGap_nil, ?_⟩
  rw [Value.compactText, String.toList_ofList, List.append_nil]
  rfl

end ServiceStubs.Json
