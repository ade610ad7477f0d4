import Mathlib.Data.List.Infix
import Mathlib.Tactic.SplitIfs
import ServiceStubs.Json.Writer
import ServiceStubs.Proofs.Text.Occurrence

/-!
# What occurs in written JSON

A pattern that neither the layout nor an escape can contribute to occurs in a written value only
where it occurs in one of the value's strings.
-/

namespace ServiceStubs.Json

open ServiceStubs.Text (infix_append_cons infix_of_infix_append)
open ServiceStubs.Json.Value (encodeChar encodeString hexDigit lineBreak pretty prettyItems
  prettyMembers)

/-! ## Foreign patterns -/

/-- The characters that part what is written. -/
def marks : List Char := "\"\\\n,:[]\x7b\x7d".toList

/-- The characters that the layout and the escapes put between those of the strings. -/
def inert : List Char := marks ++ " nulbfrt0123456789abcdef".toList

/-- A text that the layout and the escapes could have put there. -/
def IsInert (s : List Char) : Prop := ∀ c ∈ s, c ∈ inert

instance (s : List Char) : Decidable (IsInert s) := List.decidableBAll _ s

/-- A pattern that holds no mark and does not start with a character of the layout or of an
escape. -/
structure IsForeign (pattern : List Char) : Prop where
  ne_nil : pattern ≠ []
  not_mark : ∀ c ∈ pattern, c ∉ marks
  head : ∀ c ∈ pattern.head?, c ∉ inert

instance (pattern : List Char) : Decidable (IsForeign pattern) :=
  decidable_of_iff
    (pattern ≠ [] ∧ pattern.all (· ∉ marks) = true ∧ pattern.head?.all (· ∉ inert) = true)
    ⟨fun h => ⟨h.1, by simpa using h.2.1, by simpa [Option.all_eq_true] using h.2.2⟩,
      fun h => ⟨h.ne_nil, by simpa using h.not_mark, by simpa [Option.all_eq_true] using h.head⟩⟩

namespace IsForeign

variable {pattern front before rest : List Char} {c : Char}

theorem of_front (hp : IsForeign pattern) (hfront : IsInert front)
    (h : pattern <:+: front ++ rest) : pattern <:+: rest :=
  infix_of_infix_append (fun d hd hhead => hp.head d hhead (hfront d hd)) h

theorem of_cons (hp : IsForeign pattern) (hc : c ∈ inert) (h : pattern <:+: c :: rest) :
    pattern <:+: rest :=
  hp.of_front (List.forall_mem_singleton.mpr hc) h

theorem not_infix (hp : IsForeign pattern) (hfront : IsInert front) :
    ¬ pattern <:+: front := by
  intro h
  rw [← List.append_nil front] at h
  exact hp.ne_nil (List.eq_nil_of_infix_nil (hp.of_front hfront h))

theorem of_mark (hp : IsForeign pattern) (hc : c ∈ marks) (h : pattern <:+: before ++ c :: rest) :
    pattern <:+: before ∨ pattern <:+: rest :=
  infix_append_cons (fun hmem => hp.not_mark c hmem hc) h

/-- Nothing but layout follows the mark. -/
theorem of_mark_inert (hp : IsForeign pattern) (hc : c ∈ marks) (hrest : IsInert rest)
    (h : pattern <:+: before ++ c :: rest) : pattern <:+: before :=
  (hp.of_mark hc h).resolve_right (hp.not_infix hrest)

end IsForeign

/-! ## Strings -/

variable {pattern : List Char}

theorem hexDigit_mem_inert {n : Nat} (h : n < 16) : hexDigit n ∈ inert := by
  have hall : ∀ m < 16, hexDigit m ∈ inert := by decide
  exact hall n h

/-- A character is written as it is, or as a backslash with inert characters behind it. -/
theorem encodeChar_cases (c : Char) :
    encodeChar c = [c] ∨ ∃ escape, encodeChar c = '\\' :: escape ∧ IsInert escape := by
  rw [encodeChar]
  split_ifs with _ _ _ _ _ _ _ hcontrol
  · exact .inr ⟨_, rfl, by decide⟩
  · exact .inr ⟨_, rfl, by decide⟩
  · exact .inr ⟨_, rfl, by decide⟩
  · exact .inr ⟨_, rfl, by decide⟩
  · exact .inr ⟨_, rfl, by decide⟩
  · exact .inr ⟨_, rfl, by decide⟩
  · exact .inr ⟨_, rfl, by decide⟩
  · have hhigh : hexDigit (c.toNat / 16) ∈ inert := hexDigit_mem_inert (by omega)
    have hlow : hexDigit (c.toNat % 16) ∈ inert := hexDigit_mem_inert (by omega)
    have hfixed : 'u' ∈ inert ∧ '0' ∈ inert := by decide
    refine .inr ⟨_, rfl, ?_⟩
    simp only [IsInert, List.forall_mem_cons, hhigh, hlow, hfixed, List.not_mem_nil, false_imp_iff,
      implies_true, and_self]
  · exact .inl rfl

theorem prefix_of_prefix_flatMap_encodeChar {s : List Char} (hpattern : '\\' ∉ pattern)
    (h : pattern <+: s.flatMap encodeChar) : pattern <+: s := by
  induction s generalizing pattern with
  | nil => exact h
  | cons c s ih =>
    cases pattern with
    | nil => exact List.nil_prefix
    | cons d pattern =>
      rw [List.flatMap_cons] at h
      rcases encodeChar_cases c with hplain | ⟨escape, hescape, -⟩
      · rw [hplain, List.singleton_append, List.cons_prefix_cons] at h
        exact List.cons_prefix_cons.mpr
          ⟨h.1, ih (fun hmem => hpattern (List.mem_cons_of_mem d hmem)) h.2⟩
      · rw [hescape, List.cons_append, List.cons_prefix_cons] at h
        exact absurd (h.1 ▸ List.mem_cons_self) hpattern

theorem infix_of_infix_flatMap_encodeChar {s : List Char} (hp : IsForeign pattern)
    (h : pattern <:+: s.flatMap encodeChar) : pattern <:+: s := by
  have hbackslash : '\\' ∉ pattern := fun hmem => hp.not_mark _ hmem (by decide)
  induction s with
  | nil => exact h
  | cons c s ih =>
    have hlist : (c :: s).flatMap encodeChar = encodeChar c ++ s.flatMap encodeChar :=
      List.flatMap_cons
    rcases encodeChar_cases c with hplain | ⟨escape, hescape, hinert⟩
    · rw [hlist, hplain, List.singleton_append, List.infix_cons_iff] at h
      rcases h with hprefix | h
      · rw [← List.singleton_append, ← hplain, ← hlist] at hprefix
        exact (prefix_of_prefix_flatMap_encodeChar hbackslash hprefix).isInfix
      · exact List.infix_cons (ih h)
    · rw [hlist, hescape] at h
      have hfront : IsInert ('\\' :: escape) :=
        List.forall_mem_cons.mpr ⟨by decide, hinert⟩
      exact List.infix_cons (ih (hp.of_front hfront h))

theorem infix_of_infix_encodeString {s : String} (hp : IsForeign pattern)
    (h : pattern <:+: encodeString s) : pattern <:+: s.toList := by
  have hbody : pattern <:+: s.toList.flatMap encodeChar ++ '"' :: [] :=
    hp.of_cons (by decide) h
  exact infix_of_infix_flatMap_encodeChar hp
    (hp.of_mark_inert (by decide) (List.forall_mem_nil _) hbody)

/-! ## Values -/

namespace Value

mutual

/-- The strings of a value, keys included. -/
def strings : Value → List String
  | null => []
  | string s => [s]
  | list items => itemStrings items
  | object members => memberStrings members

/-- The strings of items. -/
def itemStrings : List Value → List String
  | [] => []
  | v :: vs => strings v ++ itemStrings vs

/-- The strings of members. -/
def memberStrings : List (String × Value) → List String
  | [] => []
  | (k, v) :: ms => k :: (strings v ++ memberStrings ms)

end

theorem itemStrings_map {α : Type} (f : α → Value) (as : List α) :
    itemStrings (as.map f) = as.flatMap fun a => (f a).strings := by
  induction as with
  | nil => rfl
  | cons a as ih => rw [List.map_cons, itemStrings, List.flatMap_cons, ih]

end Value

open ServiceStubs.Json.Value (strings itemStrings memberStrings)

theorem isInert_lineBreak (level : Nat) : IsInert (lineBreak level) := by
  intro d hd
  rcases List.mem_cons.mp hd with rfl | hd
  · decide
  · obtain rfl := List.eq_of_mem_replicate hd
    decide

/-- The layout of items and members ends in a line break and a bracket. -/
theorem infix_of_infix_lines {before : List Char} {level : Nat} {bracket : Char}
    (hp : IsForeign pattern) (hbracket : bracket ∈ inert)
    (h : pattern <:+: before ++ (lineBreak level ++ [bracket])) : pattern <:+: before := by
  have hlines : pattern <:+: before ++ '\n' :: (List.replicate (2 * level) ' ' ++ [bracket]) := h
  refine hp.of_mark_inert (by decide) (fun d hd => ?_) hlines
  rcases List.mem_append.mp hd with hd | hd
  · obtain rfl := List.eq_of_mem_replicate hd
    decide
  · rw [List.mem_singleton.mp hd]
    exact hbracket

/-- The line of a member has a key and a value. -/
theorem infix_of_infix_member {level : Nat} {key : String} {written : List Char}
    (hp : IsForeign pattern)
    (h : pattern <:+: lineBreak level ++ encodeString key ++ ':' :: ' ' :: written) :
    pattern <:+: key.toList ∨ pattern <:+: written := by
  rcases hp.of_mark (by decide) h with h | h
  · left
    exact infix_of_infix_encodeString hp (hp.of_front (isInert_lineBreak _) h)
  · right
    exact hp.of_cons (by decide) h

mutual

/-- What occurs in the layout of a value occurs in one of its strings. -/
theorem exists_of_infix_pretty (hp : IsForeign pattern) (level : Nat) (v : Value)
    (h : pattern <:+: pretty level v) : ∃ s ∈ strings v, pattern <:+: s.toList := by
  match v with
  | .null =>
    rw [pretty] at h
    exact absurd h (hp.not_infix (by decide))
  | .string s =>
    rw [pretty] at h
    exact ⟨s, List.mem_singleton.mpr rfl, infix_of_infix_encodeString hp h⟩
  | .list [] =>
    rw [pretty] at h
    exact absurd h (hp.not_infix (by decide))
  | .list (v :: vs) =>
    rw [pretty, List.append_assoc] at h
    have hitems := hp.of_cons (by decide) (infix_of_infix_lines hp (by decide) h)
    exact exists_of_infix_prettyItems hp (level + 1) (v :: vs) hitems
  | .object [] =>
    rw [pretty] at h
    exact absurd h (hp.not_infix (by decide))
  | .object (m :: ms) =>
    rw [pretty, List.append_assoc] at h
    have hmembers := hp.of_cons (by decide) (infix_of_infix_lines hp (by decide) h)
    exact exists_of_infix_prettyMembers hp (level + 1) (m :: ms) hmembers

/-- The case of items on lines of their own. -/
theorem exists_of_infix_prettyItems (hp : IsForeign pattern) (level : Nat) (vs : List Value)
    (h : pattern <:+: prettyItems level vs) : ∃ s ∈ itemStrings vs, pattern <:+: s.toList := by
  match vs with
  | [] => exact absurd (List.eq_nil_of_infix_nil h) hp.ne_nil
  | [v] =>
    rw [prettyItems] at h
    obtain ⟨s, hs, hinfix⟩ :=
      exists_of_infix_pretty hp level v (hp.of_front (isInert_lineBreak _) h)
    exact ⟨s, List.mem_append_left _ hs, hinfix⟩
  | v :: v' :: vs =>
    rw [prettyItems] at h
    -- The comma parts the first item from the others.
    · rcases hp.of_mark (by decide) h with h | h
      · obtain ⟨s, hs, hinfix⟩ :=
          exists_of_infix_pretty hp level v (hp.of_front (isInert_lineBreak _) h)
        exact ⟨s, List.mem_append_left _ hs, hinfix⟩
      · obtain ⟨s, hs, hinfix⟩ := exists_of_infix_prettyItems hp level (v' :: vs) h
        exact ⟨s, List.mem_append_right _ hs, hinfix⟩
    · exact List.cons_ne_nil _ _

/-- The case of members on lines of their own. -/
theorem exists_of_infix_prettyMembers (hp : IsForeign pattern) (level : Nat)
    (ms : List (String × Value)) (h : pattern <:+: prettyMembers level ms) :
    ∃ s ∈ memberStrings ms, pattern <:+: s.toList := by
  match ms with
  | [] => exact absurd (List.eq_nil_of_infix_nil h) hp.ne_nil
  | [(key, v)] =>
    rw [prettyMembers] at h
    rcases infix_of_infix_member hp h with h | h
    · exact ⟨key, List.mem_cons_self, h⟩
    · obtain ⟨s, hs, hinfix⟩ := exists_of_infix_pretty hp level v h
      exact ⟨s, List.mem_cons_of_mem key (List.mem_append_left _ hs), hinfix⟩
  | (key, v) :: m :: ms =>
    rw [prettyMembers] at h
    · rcases hp.of_mark (by decide) h with h | h
      · rcases infix_of_infix_member hp h with h | h
        · exact ⟨key, List.mem_cons_self, h⟩
        · obtain ⟨s, hs, hinfix⟩ := exists_of_infix_pretty hp level v h
          exact ⟨s, List.mem_cons_of_mem key (List.mem_append_left _ hs), hinfix⟩
      · obtain ⟨s, hs, hinfix⟩ := exists_of_infix_prettyMembers hp level (m :: ms) h
        exact ⟨s, List.mem_cons_of_mem key (List.mem_append_right _ hs), hinfix⟩
    · exact List.cons_ne_nil _ _

end

end ServiceStubs.Json
