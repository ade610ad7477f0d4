import Mathlib.Tactic.SplitIfs
import ServiceStubs.Json.Record
import ServiceStubs.Proofs.Text.Lines
import ServiceStubs.Proofs.Text.Quoted

/-!
# What a message shows of a document

A message may show a number of the document, or a string of it between quotes, where a line break is
spelled by an escape.  Either is on one line, and so is each wording around it.
-/

namespace ServiceStubs.Text

/-- A quoted text is on one line, whatever the text. -/
theorem isOneLine_quoted (s : String) : IsOneLine (quoted s) := by
  intro hline
  rw [quoted, String.toList_ofList] at hline
  cases Quoted.isLine_encode s.toList '\n' hline

end ServiceStubs.Text

namespace ServiceStubs.Decimal

theorem not_mem_render (l : Layout) (d : Digits) : '\n' ∉ l.render d := by
  have hdecimal := fun n => Text.not_mem_toDigits (b := 10) (by decide) (by decide) n
  have hzeros : ∀ n, '\n' ∉ zeros n := by
    intro n h
    exact absurd (List.eq_of_mem_replicate h) (by decide)
  have hdigits : '\n' ∉ zeros (d.count - (Nat.toDigits 10 d.digits).length) ++
      Nat.toDigits 10 d.digits := by
    rw [List.mem_append, not_or]
    exact ⟨hzeros _, hdecimal _⟩
  rw [Layout.render]
  generalize zeros (d.count - (Nat.toDigits 10 d.digits).length) ++ Nat.toDigits 10 d.digits = ds
    at hdigits
  have htake : ∀ n, '\n' ∉ ds.take n := fun n h => hdigits (List.mem_of_mem_take h)
  have hdrop : ∀ n, '\n' ∉ ds.drop n := fun n h => hdigits (List.mem_of_mem_drop h)
  dsimp only
  split
  · split_ifs
    · simp [hzeros, hdigits]
    · simp [hzeros, hdigits]
    · simp [htake, hdrop]
  · rw [List.mem_append, List.mem_append, not_or, not_or]
    refine ⟨⟨?_, ?_⟩, hdecimal _⟩
    · split
      · exact hdigits
      · exact hdigits
      · simpa using hdigits
    · split_ifs <;> decide

theorem isOneLine_text (l : Layout) (x : Float) : Text.IsOneLine (l.text x) := by
  rw [Text.IsOneLine, Layout.text, String.toList_ofList]
  cases Binary.ofBits? (x.toBits.toNat % Nat.pow 2 63) with
  | none =>
    dsimp only
    split_ifs <;> decide
  | some b =>
    dsimp only
    have hdigits := not_mem_render l b.shortest
    split_ifs
    · exact List.not_mem_cons_of_ne_of_not_mem (by decide) hdigits
    · exact hdigits

end ServiceStubs.Decimal

namespace ServiceStubs.Json

open ServiceStubs.Text (IsOneLine isOneLine_toString)

theorem isOneLine_integer (i : Int) : IsOneLine (Found.integer i).describe := by
  have hi : IsOneLine (toString i) := by
    cases i with
    | ofNat n => exact isOneLine_toString n
    | negSucc n =>
      have hminus : IsOneLine "-" := by decide
      exact hminus.append (isOneLine_toString _)
  have hstart : IsOneLine "integer \x60" := by decide
  have hend : IsOneLine "\x60" := by decide
  exact (hstart.append hi).append hend

theorem isOneLine_decimal {text : String} (h : IsOneLine text) :
    IsOneLine (Found.decimal text).describe := by
  have hstart : IsOneLine "floating point \x60" := by decide
  have hend : IsOneLine "\x60" := by decide
  exact (hstart.append h).append hend

theorem isOneLine_wrongType {found : Found} {expected : String} (hfound : IsOneLine found.describe)
    (h : IsOneLine expected) : IsOneLine (Cause.wrongType found expected).describe := by
  have hstart : IsOneLine "invalid type: " := by decide
  have hmiddle : IsOneLine ", expected " := by decide
  exact ((hstart.append hfound).append hmiddle).append h

theorem isOneLine_string (s : String) : IsOneLine (Found.string (Text.quoted s)).describe := by
  have hstart : IsOneLine "string " := by decide
  exact hstart.append (Text.isOneLine_quoted s)

theorem isOneLine_duplicateField {key : String} (h : IsOneLine key) :
    IsOneLine (Cause.duplicateField key).describe := by
  have hstart : IsOneLine "duplicate field \x60" := by decide
  have hend : IsOneLine "\x60" := by decide
  exact (hstart.append h).append hend

theorem isOneLine_missingField {key : String} (h : IsOneLine key) :
    IsOneLine (Cause.missingField key).describe := by
  have hstart : IsOneLine "missing field \x60" := by decide
  have hend : IsOneLine "\x60" := by decide
  exact (hstart.append h).append hend

theorem isOneLine_wrongLength {record : String} (h : IsOneLine record) (count size : Nat) :
    IsOneLine (Cause.wrongLength count record size).describe := by
  have hstart : IsOneLine "invalid length " := by decide
  have hexpected : IsOneLine ", expected " := by decide
  have hwith : IsOneLine " with " := by decide
  have hend : IsOneLine (if size = 1 then " element" else " elements") := by
    split_ifs <;> decide
  have hcount := isOneLine_toString count
  have hsize := isOneLine_toString size
  exact (((((hstart.append hcount).append hexpected).append h).append hwith).append hsize).append
    hend

theorem isOneLine_endIn (list : Bool) : IsOneLine (endIn list).describe := by
  cases list <;> decide

theorem isOneLine_expectedEndOf (list : Bool) : IsOneLine (expectedEndOf list).describe := by
  cases list <;> decide

end ServiceStubs.Json
