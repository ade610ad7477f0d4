import ServiceStubs.Proofs.Text.Comment
import ServiceStubs.Proofs.Text.Spacing

/-!
# The form of a text on one line

A text on one line is made of its solid runs, the maximal runs without blanks and control characters,
with one space between two of them.  Its own solid runs are the same, so a line is put on one line as
it is.  A code span is such a line with its backticks softened, and softening neither makes nor
removes a blank.
-/

namespace ServiceStubs.Text.Comment

/-! ## Lines -/

theorem solidRuns_joinLine (s : List Char) : solidRuns (joinLine s) = solidRuns s := by
  rw [joinLine_eq]
  exact solidRuns_intercalate fun _ => isSolid_of_mem_solidRuns

theorem joinLine_joinLine (s : List Char) : joinLine (joinLine s) = joinLine s := by
  rw [joinLine_eq, solidRuns_joinLine, ← joinLine_eq]

theorem isSpacedBy_joinLine (s : List Char) : IsSpacedBy ' ' (joinLine s) := by
  rw [joinLine_eq]
  refine .intercalate fun w hw => ?_
  have hsolid := isSolid_of_mem_solidRuns hw
  exact ⟨hsolid.1, space_not_mem_of_isSolid hsolid⟩

/-! ## Code spans -/

theorem isSpacing_softenBacktick (c : Char) : isSpacing (softenBacktick c) = isSpacing c := by
  rw [softenBacktick]
  split_ifs with hc
  · rw [hc]
    decide
  · rfl

theorem softenBacktick_softenBacktick (c : Char) :
    softenBacktick (softenBacktick c) = softenBacktick c := by
  by_cases hc : c = '\x60'
  · rw [hc]
    decide
  · have hsame : softenBacktick c = c := if_neg hc
    rw [hsame, hsame]

theorem solidRuns_map_softenBacktick (s : List Char) :
    solidRuns (s.map softenBacktick) = (solidRuns s).map (List.map softenBacktick) := by
  rw [solidRuns, splitOnP_map isSpacing_softenBacktick, List.filter_map, solidRuns]
  simp [Function.comp_def]

theorem joinLine_map_softenBacktick (s : List Char) :
    joinLine (s.map softenBacktick) = (joinLine s).map softenBacktick := by
  rw [joinLine_eq, joinLine_eq, solidRuns_map_softenBacktick]
  induction solidRuns s with
  | nil => rfl
  | cons w ws ih =>
    cases ws with
    | nil => simp
    | cons v ws =>
      simp only [List.map_cons, List.intercalate_cons_cons, List.map_append] at ih ⊢
      rw [ih]
      rfl

theorem backtick_not_mem_codeSpan (s : String) : '\x60' ∉ (codeSpan s).toList := by
  rw [toList_codeSpan]
  intro hc
  obtain ⟨d, -, hd⟩ := List.mem_map.mp hc
  rw [softenBacktick] at hd
  split_ifs at hd with hbacktick
  · cases hd
  · exact hbacktick hd

/-- A text on one line has no control character, no blank but the space, and its spaces stand singly
between other characters.  It is made of the maximal runs without blanks and control characters, and
has the same runs.  A code span is that line with apostrophes for backticks, so it has no backtick.
Neither form changes when it is taken again, and the two can be taken in any order. -/
theorem singleLine_normalizes (text : String) :
    let line := (singleLine text).toList
    let code := (codeSpan text).toList
    IsLine line ∧ (∀ c ∈ line, isBlank c = true → c = ' ') ∧ IsSpacedBy ' ' line ∧
    line = [' '].intercalate (solidRuns text.toList) ∧ solidRuns line = solidRuns text.toList ∧
    code = line.map (fun c => if c = '\x60' then '\'' else c) ∧ '\x60' ∉ code ∧
    singleLine (singleLine text) = singleLine text ∧ codeSpan (codeSpan text) = codeSpan text ∧
    codeSpan (singleLine text) = codeSpan text ∧ singleLine (codeSpan text) = codeSpan text := by
  intro line code
  have hline : line = joinLine text.toList := toList_singleLine text
  have hcode : code = (joinLine text.toList).map softenBacktick := toList_codeSpan text
  have hcodeLine : joinLine code = code := by
    rw [hcode, joinLine_map_softenBacktick, joinLine_joinLine]
  have hcodeSoft : code.map softenBacktick = code := by
    rw [hcode, List.map_map]
    exact List.map_congr_left fun c _ => softenBacktick_softenBacktick c
  refine ⟨isLine_singleLine text, ?_, ?_, ?_, ?_, ?_, backtick_not_mem_codeSpan text, ?_, ?_, ?_, ?_⟩
  · intro c hc hblank
    rw [hline] at hc
    exact eq_space_of_mem_joinLine hc (by rw [isSpacing, hblank, Bool.or_true])
  · rw [hline]
    exact isSpacedBy_joinLine text.toList
  · rw [hline, joinLine_eq]
  · rw [hline, solidRuns_joinLine]
  · rw [hcode, hline]
    rfl
  · rw [singleLine, toList_singleLine, joinLine_joinLine, singleLine]
  · rw [codeSpan, hcodeLine, hcodeSoft]
    exact String.ofList_toList
  · rw [codeSpan, toList_singleLine, joinLine_joinLine, codeSpan]
  · rw [singleLine, hcodeLine]
    exact String.ofList_toList

/-- A control character that is no blank, and a blank that is no control character. -/
example : codeSpan "\x00a\u00a0\u0085 Vec\x60s\n" = "a Vec's" := by decide

end ServiceStubs.Text.Comment
