import Mathlib.Tactic.SplitIfs

/-!
# Texts line by line

A text on one line holds no line break.  Texts that are printed one after another, each with a line
break behind it, are found again as the lines of what is printed if each is on one line, and only
then.
-/

namespace ServiceStubs.Text

/-- The text holds no line break. -/
def IsOneLine (s : String) : Prop := '\n' ∉ s.toList

instance (s : String) : Decidable (IsOneLine s) := inferInstanceAs (Decidable ('\n' ∉ s.toList))

/-- The lines of a text, each of which ends at a line break; behind the last break there may be one
more that does not. -/
def lines : List Char → List (List Char)
  | [] => []
  | c :: rest =>
    if c = '\n' then [] :: lines rest
    else match lines rest with
      | [] => [[c]]
      | line :: more => (c :: line) :: more

theorem isOneLine_append {a b : String} : IsOneLine (a ++ b) ↔ IsOneLine a ∧ IsOneLine b := by
  rw [IsOneLine, String.toList_append, List.mem_append, not_or]
  rfl

theorem IsOneLine.append {a b : String} (ha : IsOneLine a) (hb : IsOneLine b) :
    IsOneLine (a ++ b) :=
  isOneLine_append.mpr ⟨ha, hb⟩

theorem not_mem_toDigits {b : Nat} (hb : 1 < b) (hb' : b ≤ 16) (n : Nat) :
    '\n' ∉ Nat.toDigits b n := by
  have hdigit : ∀ d < 16, Nat.digitChar d ≠ '\n' := by decide
  induction n using Nat.strongRecOn with
  | ind n ih =>
    by_cases hn : n < b
    · rw [Nat.toDigits_of_lt_base hn, List.mem_singleton]
      exact (hdigit n (Nat.lt_of_lt_of_le hn hb')).symm
    · have hlast : n % b < 16 := Nat.lt_of_lt_of_le (Nat.mod_lt n (by omega)) hb'
      rw [Nat.toDigits_of_base_le hb (Nat.le_of_not_lt hn), List.mem_append, List.mem_singleton,
        not_or]
      exact ⟨ih (n / b) (Nat.div_lt_self (by omega) hb), (hdigit _ hlast).symm⟩

theorem isOneLine_toString (n : Nat) : IsOneLine (toString n) := by
  rw [IsOneLine, Nat.toString_eq_repr, Nat.toList_repr]
  exact not_mem_toDigits (by decide) (by decide) n

variable {c : Char} {line rest s : List Char} {texts : List String}

theorem lines_ne_nil (c : Char) (rest : List Char) : lines (c :: rest) ≠ [] := by
  rw [lines]
  split_ifs
  · exact List.cons_ne_nil _ _
  · split <;> exact List.cons_ne_nil _ _

/-- A line break divides the lines before it from those behind it. -/
theorem lines_append_break (s rest : List Char) :
    lines (s ++ '\n' :: rest) = lines (s ++ ['\n']) ++ lines rest := by
  induction s with
  | nil => rfl
  | cons c s ih =>
    rw [List.cons_append, List.cons_append, lines, lines, ih]
    split_ifs
    · rfl
    · cases hlines : lines (s ++ ['\n']) with
      | nil =>
        cases s with
        | nil => exact absurd hlines (lines_ne_nil _ _)
        | cons d s => exact absurd hlines (lines_ne_nil _ _)
      | cons line more => rfl

theorem lines_append_singleton (h : '\n' ∉ s) : lines (s ++ ['\n']) = [s] := by
  induction s with
  | nil => rfl
  | cons c s ih =>
    obtain ⟨hc, hs⟩ := not_or.mp (mt List.mem_cons.mpr h)
    rw [List.cons_append, lines, if_neg fun heq => hc heq.symm, ih hs]

theorem not_mem_of_mem_lines (h : line ∈ lines s) : '\n' ∉ line := by
  induction s generalizing line with
  | nil => exact absurd h List.not_mem_nil
  | cons c rest ih =>
    rw [lines] at h
    split_ifs at h with hc
    · rcases List.mem_cons.mp h with rfl | h
      · exact List.not_mem_nil
      · exact ih h
    · split at h
      · obtain rfl := List.mem_singleton.mp h
        exact fun hmem => hc (List.mem_singleton.mp hmem).symm
      · next first more hlines =>
        rw [hlines] at ih
        rcases List.mem_cons.mp h with rfl | h
        · intro hmem
          rcases List.mem_cons.mp hmem with heq | hmem
          · exact hc heq.symm
          · exact ih List.mem_cons_self hmem
        · exact ih (List.mem_cons_of_mem first h)

/-! ## Texts printed one after another -/

theorem lines_join (texts : List String) :
    lines (String.join (texts.map (· ++ "\n"))).toList =
      texts.flatMap fun text => lines (text.toList ++ ['\n']) := by
  induction texts with
  | nil => rfl
  | cons text texts ih =>
    have hbreak : "\n".toList = ['\n'] := rfl
    rw [List.map_cons, String.join_cons, String.toList_append, String.toList_append, hbreak,
      List.append_assoc, List.singleton_append, lines_append_break, ih, List.flatMap_cons]

/-- The texts are the lines of what is printed exactly if each is on one line. -/
theorem lines_join_iff :
    lines (String.join (texts.map (· ++ "\n"))).toList = texts.map String.toList ↔
      ∀ text ∈ texts, IsOneLine text := by
  rw [lines_join]
  constructor
  · intro h text htext
    have hmem : text.toList ∈ texts.map String.toList := List.mem_map_of_mem htext
    rw [← h, List.mem_flatMap] at hmem
    obtain ⟨other, -, hline⟩ := hmem
    exact not_mem_of_mem_lines hline
  · intro h
    induction texts with
    | nil => rfl
    | cons text texts ih =>
      obtain ⟨htext, htexts⟩ := List.forall_mem_cons.mp h
      rw [List.flatMap_cons, List.map_cons, lines_append_singleton htext, ih htexts]
      rfl

end ServiceStubs.Text
