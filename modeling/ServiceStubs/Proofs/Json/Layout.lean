import Mathlib.Data.List.Forall2
import ServiceStubs.Proofs.Json.Reading

/-!
# The pretty layout is read back

Line breaks and indentation are blanks, so a reader that takes what stands on each line takes the
whole layout, whatever the level it starts at.
-/

namespace ServiceStubs.Json

open ServiceStubs.Json.Value (lineBreak pretty prettyItems prettyMembers encodeString)

variable {α β σ : Type} {read : Reader α}

/-- The reader takes the pretty layout of the value at every level. -/
def TakesPretty (read : Reader α) (v : Value) (a : α) : Prop :=
  ∀ level, Takes read (v.pretty level) a

theorem isGap_lineBreak (level : Nat) : IsGap (lineBreak level) := by
  intro c hc
  rcases List.mem_cons.mp hc with rfl | hc
  · decide
  · obtain rfl := List.eq_of_mem_replicate hc
    decide

/-! ## Lines -/

theorem separated_prettyItems {P : List Char → β → Prop} {f : β → Value} {level : Nat}
    {bs : List β} (hne : bs ≠ []) (h : ∀ b ∈ bs, P (lineBreak level ++ (f b).pretty level) b) :
    Separated P (prettyItems level (bs.map f)) bs := by
  induction bs with
  | nil => exact absurd rfl hne
  | cons b bs ih =>
    obtain ⟨hb, hbs⟩ := List.forall_mem_cons.mp h
    cases bs with
    | nil => exact .last hb
    | cons b' bs => exact .cons hb (ih (List.cons_ne_nil _ _) hbs)

theorem separated_prettyMembers {P : List Char → β → Prop} {level : Nat}
    {written : List (String × Value)} {bs : List β} (hne : written ≠ [])
    (h : List.Forall₂ (fun w b =>
      P (lineBreak level ++ encodeString w.1 ++ ':' :: ' ' :: w.2.pretty level) b) written bs) :
    Separated P (prettyMembers level written) bs := by
  induction h with
  | nil => exact absurd rfl hne
  | @cons w b written bs hb hbs ih =>
    cases hbs with
    | nil => exact .last hb
    | cons hb' hbs =>
      rw [prettyMembers]
      · exact .cons hb (ih (List.cons_ne_nil _ _))
      · exact List.cons_ne_nil _ _

namespace TakesPretty

/-! ## Strings, lists and records -/

theorem string (s : String) : TakesPretty readString (.string s) s := by
  intro level
  rw [pretty]
  exact .string s

theorem orEmpty [Inhabited α] {v : Value} {a : α} (h : TakesPretty read v a) :
    TakesPretty (readOrEmpty read) v a :=
  fun level => (h level).orEmpty

theorem list {f : α → Value} {as : List α} (h : ∀ a ∈ as, TakesPretty read (f a) a) :
    TakesPretty (readList read) (.list (as.map f)) as := by
  intro level
  cases as with
  | nil =>
    rw [List.map_nil, pretty]
    exact .emptyList read
  | cons a as =>
    have hitems :
        Separated (TakesItem read) (prettyItems (level + 1) ((a :: as).map f)) (a :: as) :=
      separated_prettyItems (List.cons_ne_nil _ _) fun b hb =>
        ⟨_, _, rfl, isGap_lineBreak _, h b hb _⟩
    have hlist := Takes.list hitems (isGap_lineBreak level)
    rw [List.map_cons] at hlist ⊢
    rw [pretty]
    simpa only [List.cons_append, List.append_assoc] using hlist

/-- A member that is written, and what becomes of the record. -/
def Member (shape : Shape σ) (written : String × Value) (member : String × (σ → σ)) : Prop :=
  written.1 = member.1 ∧ ∃ field, shape.fields.find? (·.key == member.1) = some field ∧
    TakesPretty field.read written.2 member.2

theorem Member.of {shape : Shape σ} {key : String} {required : Bool} {v : Value} {a : α}
    (store : α → σ → σ) (h : TakesPretty read v a)
    (hfield : shape.fields.find? (·.key == key) = some (.of key required read store)) :
    Member shape (key, v) (key, store a) :=
  ⟨rfl, _, hfield, fun level => (h level).field key required store⟩

theorem record {shape : Shape σ} {written : List (String × Value)}
    {members : List (String × (σ → σ))} (hne : written ≠ [])
    (h : List.Forall₂ (Member shape) written members) (hnodup : (Shape.keysOf members).Nodup)
    (hcomplete : shape.firstMissing? (Shape.keysOf members) = none) :
    TakesPretty shape.read (.object written) (members.foldl (fun r m => m.2 r) shape.blank) := by
  intro level
  have hlines : Separated (TakesMember shape) (prettyMembers (level + 1) written) members := by
    refine separated_prettyMembers hne (h.imp ?_)
    rintro w m ⟨hkey, field, hfield, hvalue⟩
    refine ⟨lineBreak (level + 1), [' '], _, field, ?_, isGap_lineBreak _, ?_, hfield,
      hvalue (level + 1)⟩
    · rw [hkey, List.append_assoc]
      rfl
    · intro c hc
      obtain rfl := List.mem_singleton.mp hc
      decide
  have hrecord := Takes.record hlines (isGap_lineBreak level) hnodup hcomplete
  obtain ⟨w, written, rfl⟩ := List.exists_cons_of_ne_nil hne
  rw [pretty]
  simpa only [List.cons_append, List.append_assoc] using hrecord

end TakesPretty

/-! ## Documents -/

/-- A document in the pretty layout has nothing after its value. -/
theorem readDocument_prettyText {v : Value} {a : α} (h : TakesPretty read v a) :
    readDocument read v.prettyText = .ok a := by
  have hread := (h 0).read_eq [] [] isGap_nil
  rw [List.nil_append, List.append_nil] at hread
  rw [readDocument, Value.prettyText, String.toList_ofList]
  simp only [hread]
  rfl

end ServiceStubs.Json
