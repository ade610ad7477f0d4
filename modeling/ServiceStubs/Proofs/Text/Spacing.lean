import Mathlib.Data.List.Chain

/-!
# A separator between other characters

Words that are joined by a separator can be told apart again if the separator stands only between two
other characters.  A text is spaced in this way if no piece between two separators is empty.
-/

namespace ServiceStubs.Text

variable {sep : Char} {s : List Char} {ws : List (List Char)}

/-- The separator stands at neither end of the text and never next to itself. -/
structure IsSpacedBy (sep : Char) (s : List Char) : Prop where
  first : sep ∉ s.head?
  last : sep ∉ s.getLast?
  apart : ¬ [sep, sep] <:+: s

namespace IsSpacedBy

theorem nil (sep : Char) : IsSpacedBy sep [] :=
  ⟨by simp, by simp, by simp⟩

/-- A separator that is out of place leaves an empty piece in front of it or behind it. -/
theorem of_splitOn (h : [] ∉ s.splitOn sep) : IsSpacedBy sep s := by
  refine ⟨?_, ?_, ?_⟩
  · intro hfirst
    obtain ⟨rest, rfl⟩ := List.head?_eq_some_iff.mp hfirst
    apply h
    rw [← List.nil_append (sep :: rest), List.splitOn_append_cons_self]
    simp
  · intro hlast
    obtain ⟨front, rfl⟩ := List.getLast?_eq_some_iff.mp hlast
    apply h
    rw [List.splitOn_append_cons_self]
    simp
  · rintro ⟨before, after, rfl⟩
    apply h
    rw [List.append_assoc, List.cons_append, List.singleton_append, List.splitOn_append_cons_self,
      ← List.nil_append (sep :: after), List.splitOn_append_cons_self]
    simp

/-- Words without the separator are spaced by it. -/
theorem intercalate (h : ∀ w ∈ ws, w ≠ [] ∧ sep ∉ w) :
    IsSpacedBy sep ([sep].intercalate ws) := by
  by_cases hnone : ws = []
  · rw [hnone, List.intercalate_nil]
    exact nil sep
  · apply of_splitOn
    rw [List.splitOn_intercalate sep (fun w hw => (h w hw).2) hnone]
    exact fun hmem => (h [] hmem).1 rfl

/-- No two neighbours are both the separator. -/
theorem not_infix_iff : ¬ [sep, sep] <:+: s ↔ s.IsChain fun a b => ¬ (a = sep ∧ b = sep) := by
  constructor
  · intro h
    rw [List.isChain_iff_forall_rel_of_append_cons_cons]
    rintro a b before after rfl ⟨rfl, rfl⟩
    exact h ⟨before, after, by simp⟩
  · intro h hinfix
    have hchain := List.IsChain.infix h hinfix
    exact (List.isChain_cons_cons.mp hchain).1 ⟨rfl, rfl⟩

end IsSpacedBy

/-- A text without the separator brings no two of them together. -/
theorem isChain_append_of_not_mem (h : sep ∉ s) {rest : List Char}
    (hrest : rest.IsChain fun a b => ¬ (a = sep ∧ b = sep)) :
    (s ++ rest).IsChain fun a b => ¬ (a = sep ∧ b = sep) := by
  induction s with
  | nil => exact hrest
  | cons c s ih =>
    obtain ⟨hc, hs⟩ := not_or.mp (mt List.mem_cons.mpr h)
    exact List.isChain_cons.mpr ⟨fun _ _ heq => hc heq.1.symm, ih hs⟩

end ServiceStubs.Text
