import ServiceStubs.Proofs.Rust.Layout

/-!
# Block comments

Block comments nest, so where one ends depends on how deep the text is at each character.  A content
that is kept apart from delimiters stays at the depth of the comment itself, up to its closer.
-/

namespace ServiceStubs.Rust

open ServiceStubs.Rust.Token (isPlainBlock splitBlock)
open ServiceStubs.Text.Comment (IsApart isDelimiterPair)

variable {s rest content : List Char}

/-- The depths of nesting that a text passes through from one on, each after a delimiter or after
one other character. -/
def depths : Nat → List Char → List Nat
  | _, [] => []
  | depth, '/' :: '*' :: s => (depth + 1) :: depths (depth + 1) s
  | depth, '*' :: '/' :: s => (depth - 1) :: depths (depth - 1) s
  | depth, _ :: s => depth :: depths depth s

/-- A block comment ends where the depth is back at zero for the first time. -/
theorem depths_of_splitBlock {depth : Nat} {inside : List Char}
    (h : splitBlock depth s = some (inside, rest)) :
    ∃ before, depths (depth + 1) s = before ++ 0 :: depths 0 rest ∧ ∀ n ∈ before, 0 < n := by
  -- A character inside, or a delimiter of a comment inside, adds one positive depth.
  have hadd : ∀ {n : Nat} {ds : List Nat}, 0 < n →
      (∃ before, ds = before ++ 0 :: depths 0 rest ∧ ∀ m ∈ before, 0 < m) →
      ∃ before, n :: ds = before ++ 0 :: depths 0 rest ∧ ∀ m ∈ before, 0 < m := by
    rintro n ds hn ⟨before, rfl, hbefore⟩
    exact ⟨n :: before, rfl, List.forall_mem_cons.mpr ⟨hn, hbefore⟩⟩
  fun_induction splitBlock depth s generalizing inside with
  | case1 => cases h
  | case2 depth s ih =>
    obtain ⟨p, hsplit, heq⟩ := Option.map_eq_some_iff.mp h
    cases heq
    simp only [depths]
    exact hadd (Nat.succ_pos _) (ih hsplit)
  | case3 s =>
    cases h
    exact ⟨[], rfl, by simp⟩
  | case4 depth s ih =>
    obtain ⟨p, hsplit, heq⟩ := Option.map_eq_some_iff.mp h
    cases heq
    simp only [depths]
    exact hadd (Nat.succ_pos _) (ih hsplit)
  | case5 depth c s hopener hfirst hcloser ih =>
    obtain ⟨p, hsplit, heq⟩ := Option.map_eq_some_iff.mp h
    cases heq
    rw [depths]
    · exact hadd (Nat.succ_pos _) (ih hsplit)
    · exact hopener
    · intro r hstar hslash
      cases depth with
      | zero => exact hfirst r rfl hstar hslash
      | succ n => exact hcloser n r rfl hstar hslash

/-! ## Contents kept apart from delimiters -/

theorem exists_next_of_isApart {c : Char} (rest : List Char)
    (h : IsApart (c :: content ++ ['*'])) :
    ∃ d s, content ++ '*' :: rest = d :: s ∧ isDelimiterPair c d = false := by
  cases content with
  | nil => exact ⟨'*', rest, rfl, h.rel⟩
  | cons d content => exact ⟨d, content ++ '*' :: rest, rfl, h.rel⟩

/-- A character that delimits nothing with the next one belongs to the content. -/
theorem splitBlock_cons {c d : Char} (depth : Nat) (h : isDelimiterPair c d = false) :
    splitBlock depth (c :: d :: s) =
      (splitBlock depth (d :: s)).map fun (inside, rest) => (c :: inside, rest) := by
  simp only [isDelimiterPair, Bool.or_eq_false_iff, Bool.and_eq_false_iff,
    decide_eq_false_iff_not] at h
  rw [splitBlock]
  · rintro r rfl heq
    obtain ⟨rfl, -⟩ := List.cons.inj heq
    simp at h
  · rintro r - rfl heq
    obtain ⟨rfl, -⟩ := List.cons.inj heq
    simp at h
  · rintro n r - rfl heq
    obtain ⟨rfl, -⟩ := List.cons.inj heq
    simp at h

/-- A text that is kept apart from delimiters is the whole content up to the next closer. -/
theorem splitBlock_of_isApart (h : IsApart (content ++ ['*'])) :
    splitBlock 0 (content ++ '*' :: '/' :: rest) = some (content, rest) := by
  induction content with
  | nil => simp [splitBlock]
  | cons c content ih =>
    obtain ⟨d, s, hs, hpair⟩ := exists_next_of_isApart ('/' :: rest) h
    have hrest := ih h.tail
    rw [hs] at hrest
    rw [List.cons_append, hs, splitBlock_cons 0 hpair, hrest]
    rfl

theorem depths_cons {c d : Char} (depth : Nat) (h : isDelimiterPair c d = false) :
    depths depth (c :: d :: s) = depth :: depths depth (d :: s) := by
  simp only [isDelimiterPair, Bool.or_eq_false_iff, Bool.and_eq_false_iff,
    decide_eq_false_iff_not] at h
  rw [depths]
  · rintro r rfl heq
    obtain ⟨rfl, -⟩ := List.cons.inj heq
    simp at h
  · rintro r rfl heq
    obtain ⟨rfl, -⟩ := List.cons.inj heq
    simp at h

/-- A text that is kept apart from delimiters changes the depth only at the next closer. -/
theorem depths_of_isApart (depth : Nat) (h : IsApart (content ++ ['*'])) :
    depths depth (content ++ '*' :: '/' :: rest) =
      List.replicate content.length depth ++ (depth - 1) :: depths (depth - 1) rest := by
  induction content with
  | nil => simp [depths]
  | cons c content ih =>
    obtain ⟨d, s, hs, hpair⟩ := exists_next_of_isApart ('/' :: rest) h
    have hrest := ih h.tail
    rw [hs] at hrest
    rw [List.cons_append, hs, depths_cons depth hpair, hrest]
    rfl

namespace Lexeme

/-- A block comment whose content is kept apart from delimiters ends at its own closer. -/
theorem cuts_block (hapart : IsApart (content ++ ['*']))
    (hplain : isPlainBlock (content ++ '*' :: '/' :: rest) = true) :
    Cuts ('/' :: '*' :: content ++ '*' :: '/' :: rest) [block content] rest := by
  have hplain? : next?.plain? ('/' :: '*' :: (content ++ '*' :: '/' :: rest)) =
      some (block content, rest) := by
    rw [next?.plain?, if_pos hplain, splitBlock_of_isApart hapart]
    rfl
  apply Cuts.single
  simp only [List.cons_append]
  rw [next?_cons, hplain?]
  rfl

end Lexeme

end ServiceStubs.Rust
