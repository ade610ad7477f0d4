import Mathlib.Data.List.Chain
import ServiceStubs.Proofs.Text.Words
import ServiceStubs.Text.Comment

/-!
# What sanitized text cannot hold

A text on one line is made of the solid runs of the original.  It holds no control character, so none
that ends a line.  In a text made safe for a block comment no two adjacent characters delimit a
comment, and no double quote is left.
-/

namespace ServiceStubs.Text.Comment

/-! ## Text on one line -/

theorem toList_singleLine (text : String) : (singleLine text).toList = joinLine text.toList :=
  String.toList_ofList

theorem toList_codeSpan (text : String) :
    (codeSpan text).toList = (joinLine text.toList).map softenBacktick :=
  String.toList_ofList

/-- Joining texts adds only the separator. -/
theorem mem_intercalate {c : Char} {sep : List Char} {ws : List (List Char)}
    (h : c ∈ sep.intercalate ws) : c ∈ sep ∨ ∃ w ∈ ws, c ∈ w := by
  induction ws with
  | nil => simp at h
  | cons w ws ih =>
    cases ws with
    | nil => exact .inr ⟨w, by simp_all⟩
    | cons v vs =>
      simp only [List.intercalate_cons_cons, List.mem_append] at h
      rcases h with (h | h) | h
      · exact .inr ⟨w, List.mem_cons_self, h⟩
      · exact .inl h
      · rcases ih h with h | ⟨u, hu, hc⟩
        · exact .inl h
        · exact .inr ⟨u, List.mem_cons_of_mem w hu, hc⟩

/-- A line is made of the solid runs of the text. -/
theorem joinLine_eq (s : List Char) : joinLine s = [' '].intercalate (solidRuns s) := by
  have hcut (c : Char) : isBlank (if isControl c then ' ' else c) = isSpacing c := by
    rw [isSpacing]
    split_ifs with hc
    · rw [hc, Bool.true_or]
      decide
    · rw [Bool.not_eq_true] at hc
      rw [hc, Bool.false_or]
  have hpieces : (s.splitOnP isSpacing).map
      (List.map fun c => if isControl c then ' ' else c) = s.splitOnP isSpacing := by
    refine (List.map_congr_left fun w hw => ?_).trans (List.map_id _)
    refine (List.map_congr_left fun c hc => ?_).trans (List.map_id _)
    have hsolid := eq_false_of_mem_splitOnP hw c hc
    rw [isSpacing, Bool.or_eq_false_iff] at hsolid
    simp [hsolid.1]
  rw [joinLine, words_eq, splitOnP_map hcut, hpieces, solidRuns]

theorem eq_space_of_mem_joinLine {s : List Char} {c : Char} (hc : c ∈ joinLine s)
    (hspacing : isSpacing c = true) : c = ' ' := by
  rw [joinLine_eq] at hc
  rcases mem_intercalate hc with hc | ⟨w, hw, hc⟩
  · exact List.mem_singleton.mp hc
  · rw [(isSolid_of_mem_solidRuns hw).2 c hc] at hspacing
    cases hspacing

theorem isControl_of_mem_joinLine {s : List Char} {c : Char} (hc : c ∈ joinLine s) :
    isControl c = false := by
  cases hcontrol : isControl c with
  | false => rfl
  | true =>
    have hspace : c = ' ' :=
      eq_space_of_mem_joinLine hc (by rw [isSpacing, hcontrol, Bool.true_or])
    rw [hspace] at hcontrol
    exact absurd hcontrol (by decide)

/-- A text without control characters.  It has no end of line, and no carriage return that a
doc comment would be refused for. -/
def IsLine (s : List Char) : Prop := ∀ c ∈ s, isControl c = false

instance (s : List Char) : Decidable (IsLine s) := List.decidableBAll _ s

theorem isLine_singleLine (s : String) : IsLine (singleLine s).toList := by
  intro c hc
  rw [toList_singleLine] at hc
  exact isControl_of_mem_joinLine hc

theorem isLine_codeSpan (s : String) : IsLine (codeSpan s).toList := by
  intro c hc
  rw [toList_codeSpan] at hc
  obtain ⟨d, hd, rfl⟩ := List.mem_map.mp hc
  rw [softenBacktick]
  split_ifs
  · decide
  · exact isControl_of_mem_joinLine hd

@[simp] theorem isLine_append {s t : List Char} : IsLine (s ++ t) ↔ IsLine s ∧ IsLine t := by
  simp only [IsLine, List.mem_append]
  constructor
  · intro h
    exact ⟨fun c hc => h c (.inl hc), fun c hc => h c (.inr hc)⟩
  · rintro ⟨hs, ht⟩ c (hc | hc)
    · exact hs c hc
    · exact ht c hc

/-! ## Text in a block comment -/

/-- A text in which no two adjacent characters delimit a comment. -/
def IsApart (s : List Char) : Prop := s.IsChain fun a b => isDelimiterPair a b = false

theorem head?_separate (s : List Char) : (separate s).head? = s.head? := by
  cases s with
  | nil => rfl
  | cons a s =>
    cases s with
    | nil => rfl
    | cons b s =>
      rw [separate]
      split_ifs <;> rfl

theorem isApart_separate (s : List Char) : IsApart (separate s) := by
  induction s with
  | nil => exact .nil
  | cons a s ih =>
    cases s with
    | nil => exact .singleton a
    | cons b s =>
      have hhead : (separate (b :: s)).head? = some b := head?_separate (b :: s)
      obtain ⟨t, ht⟩ : ∃ t, separate (b :: s) = b :: t := List.head?_eq_some_iff.mp hhead
      rw [ht] at ih
      rw [separate, ht]
      -- A space keeps away from every neighbour, so it may stand between any two characters.
      have hspace : isDelimiterPair a ' ' = false ∧ isDelimiterPair ' ' b = false := by
        simp [isDelimiterPair]
      split_ifs with hpair
      · exact .cons_cons hspace.1 (.cons_cons hspace.2 ih)
      · exact .cons_cons (by simpa using hpair) ih

theorem mem_separate {s : List Char} {c : Char} (hc : c ∈ separate s) : c = ' ' ∨ c ∈ s := by
  induction s using separate.induct with
  | case1 => simp [separate] at hc
  | case2 a => exact .inr (by simpa [separate] using hc)
  | case3 a b rest hpair ih =>
    simp only [separate, hpair, if_true, List.mem_cons] at hc ih ⊢
    grind
  | case4 a b rest hpair ih =>
    simp only [separate, hpair, List.mem_cons] at hc ih ⊢
    grind

theorem isApart_escapeBlock (s : String) : IsApart (escapeBlock s).toList := by
  rw [escapeBlock, String.toList_ofList]
  exact isApart_separate _

theorem quote_not_mem_escapeBlock (s : String) : '"' ∉ (escapeBlock s).toList := by
  rw [escapeBlock, String.toList_ofList]
  intro hc
  rcases mem_separate hc with hc | hc
  · simp at hc
  · obtain ⟨d, -, hd⟩ := List.mem_map.mp hc
    rw [softenQuote] at hd
    split_ifs at hd with hquote
    · simp at hd
    · exact hquote hd

end ServiceStubs.Text.Comment
