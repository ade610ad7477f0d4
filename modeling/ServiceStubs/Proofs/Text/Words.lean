import Mathlib.Tactic.SplitIfs
import ServiceStubs.Text.Blank

/-!
# Words and solid runs

The words of a text are its pieces between blanks, without the empty ones.  Where control characters
count as blanks, the pieces that are left are its solid runs.  Such runs can be joined by spaces and
found again.
-/

namespace ServiceStubs.Text

variable {s w : List Char} {ws : List (List Char)}

/-- Whether a character is a control character or a blank.  Some are both, some only one of the
two. -/
def isSpacing (c : Char) : Bool :=
  isControl c || isBlank c

/-- The maximal runs of a text without spacing, in order. -/
def solidRuns (s : List Char) : List (List Char) :=
  (s.splitOnP isSpacing).filter (!·.isEmpty)

/-- A run that is not empty and has no spacing in it. -/
def IsSolid (w : List Char) : Prop := w ≠ [] ∧ ∀ c ∈ w, isSpacing c = false

/-! ## Pieces between characters -/

section Pieces

variable {p q : Char → Bool}

theorem eq_false_of_mem_splitOnP (hw : w ∈ s.splitOnP p) : ∀ c ∈ w, p c = false := by
  induction s generalizing w with
  | nil =>
    rw [List.mem_singleton.mp hw]
    exact List.forall_mem_nil _
  | cons d s ih =>
    rw [List.splitOnP_cons_eq_if_modifyHead] at hw
    obtain ⟨first, pieces, hpieces⟩ := List.exists_cons_of_ne_nil (List.splitOnP_ne_nil p s)
    rw [hpieces] at hw ih
    split_ifs at hw with hd
    · rcases List.mem_cons.mp hw with rfl | hw
      · exact List.forall_mem_nil _
      · exact ih hw
    · rw [List.modifyHead_cons] at hw
      rcases List.mem_cons.mp hw with rfl | hw
      · exact List.forall_mem_cons.mpr ⟨by simpa using hd, ih List.mem_cons_self⟩
      · exact ih (List.mem_cons_of_mem first hw)

/-- A map that keeps apart where to cut maps the pieces. -/
theorem splitOnP_map {f : Char → Char} (h : ∀ c, q (f c) = p c) (s : List Char) :
    (s.map f).splitOnP q = (s.splitOnP p).map (List.map f) := by
  induction s with
  | nil => rfl
  | cons c s ih =>
    obtain ⟨first, pieces, hpieces⟩ := List.exists_cons_of_ne_nil (List.splitOnP_ne_nil p s)
    rw [List.map_cons, List.splitOnP_cons_eq_if_modifyHead, ih, h,
      List.splitOnP_cons_eq_if_modifyHead, hpieces]
    split_ifs <;> rfl

end Pieces

/-! ## Solid runs -/

theorem isSolid_of_mem_solidRuns (hw : w ∈ solidRuns s) : IsSolid w := by
  obtain ⟨hpiece, hne⟩ := List.mem_filter.mp hw
  exact ⟨by simpa using hne, eq_false_of_mem_splitOnP hpiece⟩

theorem space_not_mem_of_isSolid (h : IsSolid w) : ' ' ∉ w := by
  intro hc
  have hspace : isSpacing ' ' = false := h.2 ' ' hc
  exact absurd hspace (by decide)

/-- The runs of a joined row are the row. -/
theorem solidRuns_intercalate (h : ∀ w ∈ ws, IsSolid w) : solidRuns ([' '].intercalate ws) = ws := by
  induction ws with
  | nil => rfl
  | cons w ws ih =>
    obtain ⟨⟨hne, hsolid⟩, hws⟩ := List.forall_mem_cons.mp h
    cases ws with
    | nil => simp [solidRuns, List.splitOnP_eq_singleton hsolid, hne]
    | cons v ws =>
      have hrest := ih hws
      have hspace : isSpacing ' ' = true := by decide
      rw [solidRuns] at hrest ⊢
      rw [List.intercalate_cons_cons, List.append_assoc, List.singleton_append,
        List.splitOnP_append_cons _ _ hspace, List.splitOnP_eq_singleton hsolid, List.filter_append,
        hrest]
      simp [hne]

theorem words_cons (c : Char) (rest : List Char) :
    words (c :: rest) =
      if isBlank c then words rest
      else match rest, words rest with
        | d :: _, w :: ws => if isBlank d then [c] :: w :: ws else (c :: w) :: ws
        | _, ws => [c] :: ws := rfl

/-- The words of a text are its pieces between blanks, without the empty ones. -/
theorem words_eq (s : List Char) : words s = (s.splitOnP isBlank).filter (!·.isEmpty) := by
  induction s with
  | nil => rfl
  | cons c rest ih =>
    rw [words_cons, ih, List.splitOnP_cons_eq_if_modifyHead]
    split_ifs with hc
    · simp
    · -- The first piece of the rest is empty just if the rest is empty or starts with a blank.
      cases rest with
      | nil => simp
      | cons d rest =>
        obtain ⟨first, pieces, hpieces⟩ :=
          List.exists_cons_of_ne_nil (List.splitOnP_ne_nil isBlank rest)
        rw [List.splitOnP_cons_eq_if_modifyHead, hpieces]
        split_ifs with hd
        · cases hruns : (first :: pieces).filter (!·.isEmpty) <;> simp [hruns, hd]
        · simp [hd]

end ServiceStubs.Text
