import Mathlib.Data.List.Infix

/-!
# Where a pattern occurs

A pattern cannot reach over a character that it does not hold.  So what occurs in a text with such a
character in it occurs before or behind that character, and the first occurrence of the pattern can
be told as soon as the text before it is known to be free of it.
-/

namespace ServiceStubs.Text

variable {pattern before rest : List Char} {c : Char}

theorem eq_nil_of_prefix_cons (hc : c ∉ pattern) (h : pattern <+: c :: rest) : pattern = [] := by
  cases pattern with
  | nil => rfl
  | cons d pattern =>
    obtain rfl := (List.cons_prefix_cons.mp h).1
    exact absurd List.mem_cons_self hc

theorem prefix_of_prefix_append_cons (hc : c ∉ pattern) (h : pattern <+: before ++ c :: rest) :
    pattern <+: before := by
  rcases List.prefix_or_prefix_of_prefix h (List.prefix_append before (c :: rest)) with
    hshort | ⟨extra, rfl⟩
  · exact hshort
  · rw [List.prefix_append_right_inj] at h
    have hextra : c ∉ extra := fun hmem => hc (List.mem_append_right before hmem)
    rw [eq_nil_of_prefix_cons hextra h, List.append_nil]

/-- What occurs around a foreign character occurs on one of its sides. -/
theorem infix_append_cons (hc : c ∉ pattern) (h : pattern <:+: before ++ c :: rest) :
    pattern <:+: before ∨ pattern <:+: rest := by
  rcases List.infix_append_iff.mp h with hbefore | hrest | ⟨left, right, rfl, hleft, hright⟩
  · exact .inl hbefore
  · rcases List.infix_cons_iff.mp hrest with hprefix | hrest
    · rw [eq_nil_of_prefix_cons hc hprefix]
      exact .inl List.nil_infix
    · exact .inr hrest
  · have hnil := eq_nil_of_prefix_cons (fun hmem => hc (List.mem_append_right left hmem)) hright
    rw [hnil, List.append_nil]
    exact .inl hleft.isInfix

/-- Characters that the pattern does not start with can be left out at the front. -/
theorem infix_of_infix_append {front : List Char} (hfront : ∀ d ∈ front, d ∉ pattern.head?)
    (h : pattern <:+: front ++ rest) : pattern <:+: rest := by
  induction front with
  | nil => exact h
  | cons d front ih =>
    obtain ⟨hd, hfront⟩ := List.forall_mem_cons.mp hfront
    rcases List.infix_cons_iff.mp h with hprefix | h
    · cases pattern with
      | nil => exact List.nil_infix
      | cons e pattern =>
        obtain rfl := (List.cons_prefix_cons.mp hprefix).1
        exact absurd rfl hd
    · exact ih hfront h

/-- The first occurrence is behind a foreign character, if there is none before it. -/
theorem dropInfix?_append_cons (hc : c ∉ pattern) (hbefore : ¬ pattern <:+: before)
    (rest : List Char) :
    (before ++ c :: (pattern ++ rest)).dropInfix? pattern = some (before ++ [c], rest) := by
  refine List.dropInfix?_eq_some_iff.mpr ⟨⟨pattern, by simp, by simp⟩, ?_⟩
  intro early found behind heq hfound
  obtain rfl : pattern = found := (beq_iff_eq.mp hfound).symm
  by_contra hshort
  have hlength : early.length ≤ before.length := by
    rw [List.length_append, List.length_singleton] at hshort
    omega
  have hearly : early <+: before ++ c :: (pattern ++ rest) :=
    ⟨pattern ++ behind, by rw [heq, List.append_assoc]⟩
  obtain ⟨extra, rfl⟩ : early <+: before :=
    List.prefix_of_prefix_length_le hearly (List.prefix_append _ _) hlength
  rw [List.append_assoc, List.append_assoc] at heq
  have hprefix : pattern <+: extra ++ c :: (pattern ++ rest) :=
    ⟨behind, (List.append_cancel_left heq).symm⟩
  apply hbefore
  have hextra := (prefix_of_prefix_append_cons hc hprefix).isInfix
  exact hextra.trans (List.suffix_append early extra).isInfix

end ServiceStubs.Text
