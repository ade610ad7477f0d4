import Mathlib.Tactic.IntervalCases
import ServiceStubs.Proofs.Rust.StringBody
import ServiceStubs.Proofs.Text.Comment
import ServiceStubs.Text.Quoted

/-!
# Quoted texts are string literals

A quoted text stands as a literal of a source text, and the literal has the text as its value.
Each character is spelled either by itself or by an escape that reads back to it, so the reader
of literals passes a quoted text up to its closing quote and no further.
-/

namespace ServiceStubs

open ServiceStubs.Text.Quoted (encodeChar encode isHidden)
open ServiceStubs.Text.Identifier (isStart)
open ServiceStubs.Text (isControl)
open ServiceStubs.Text.Comment (IsLine isLine_append)

namespace Rust.Literal

/-! ## Escapes by code point -/

theorem hexDigit?_digitChar {d : Nat} (hd : d < 16) : hexDigit? d.digitChar = some d := by
  interval_cases d <;> rfl

theorem hexDigits_toDigits (n : Nat) :
    HexDigits (Nat.toDigits 16 n) (Nat.toDigits 16 n).length n := by
  induction n using Nat.strongRecOn with
  | ind n ih =>
    by_cases hn : n < 16
    · rw [Nat.toDigits_of_lt_base hn]
      exact .first (hexDigit?_digitChar hn)
    · have hdigit : n % 16 < 16 := Nat.mod_lt n (by decide)
      have hall := (ih (n / 16) (by omega)).digit (hexDigit?_digitChar hdigit)
      rwa [Nat.div_add_mod', ← List.length_concat, List.concat_eq_append,
        ← Nat.toDigits_of_base_le (by decide) (Nat.le_of_not_lt hn)] at hall

theorem length_toDigits_toNat (c : Char) : (Nat.toDigits 16 c.toNat).length ≤ 6 := by
  rw [Nat.length_toDigits_le_iff (by decide) (by decide)]
  have hvalid : c.toNat.isValidChar := c.valid
  simp only [Nat.isValidChar] at hvalid
  omega

/-! ## Spellings -/

/-- The spelling of one character reads back to that character. -/
theorem part_encodeChar (c : Char) : Part (encodeChar c) c := by
  rw [encodeChar]
  split_ifs with hnul htab hreturn hline hslash hquote hhidden
  · exact .escape (.letter (by rw [hnul]; rfl))
  · exact .escape (.letter (by rw [htab]; rfl))
  · exact .escape (.letter (by rw [hreturn]; rfl))
  · exact .escape (.letter (by rw [hline]; rfl))
  · exact .escape (.letter (by rw [hslash]; rfl))
  · exact .escape (.letter (by rw [hquote]; rfl))
  · exact .escape (.codePoint (hexDigits_toDigits c.toNat) (length_toDigits_toNat c))
  · exact .raw (by simp [hquote, hslash, hreturn])

theorem spells_encode (v : List Char) : Spells (v.flatMap encodeChar) v := by
  induction v with
  | nil => exact .nil
  | cons c v ih => exact .cons (part_encodeChar c) ih

/-- The value of a quoted text is the text. -/
theorem stringValue?_encode (v : List Char) : stringValue? (encode v) = some v :=
  (spells_encode v).stringValue?_eq

/-- A quoted text is passed as a whole, unless what follows would be its suffix. -/
theorem pass?_encode (v : List Char) {rest : List Char}
    (hrest : rest.head?.any isStart = false) : pass? (encode v ++ rest) = some rest := by
  have hjoined : encode v ++ rest = '"' :: (v.flatMap encodeChar ++ '"' :: rest) := by
    simp [encode]
  rw [hjoined]
  exact (spells_encode v).pass?_eq hrest

end Rust.Literal

/-! ## Control characters -/

namespace Text.Quoted

theorem isHidden_of_isControl {c : Char} (h : isControl c = true) : isHidden c = true := by
  simp only [isControl, Bool.or_eq_true, Bool.and_eq_true, decide_eq_true_eq] at h
  rw [isHidden]
  split
  · simp only [Bool.or_eq_true, decide_eq_true_eq, beq_iff_eq]
    omega
  · refine List.any_eq_true.mpr ⟨⟨0x80, 0xA0, 1⟩, List.mem_cons_self, ?_⟩
    simp only [Run.contains, Bool.and_eq_true, decide_eq_true_eq, beq_iff_eq]
    omega

theorem isLine_of_hexDigits {cs : List Char} {count value : Nat}
    (h : Rust.Literal.HexDigits cs count value) : IsLine cs := by
  have hdigit {c : Char} {d : Nat} (h : Rust.Literal.hexDigit? c = some d) : IsLine [c] := by
    have hrange := Rust.Literal.toNat_of_hexDigit? h
    refine List.forall_mem_singleton.mpr ?_
    simp only [isControl, Bool.or_eq_false_iff, Bool.and_eq_false_iff, decide_eq_false_iff_not]
    omega
  induction h with
  | first h => exact hdigit h
  | digit _ h ih => exact isLine_append.mpr ⟨ih, hdigit h⟩
  | gap _ ih => exact isLine_append.mpr ⟨ih, by decide⟩

theorem isLine_encodeChar (c : Char) : IsLine (encodeChar c) := by
  rw [encodeChar]
  split_ifs with hnul htab hreturn hline hslash hquote hhidden
  · decide
  · decide
  · decide
  · decide
  · decide
  · decide
  · have hdigits := isLine_of_hexDigits (Rust.Literal.hexDigits_toDigits c.toNat)
    exact isLine_append.mpr ⟨isLine_append.mpr ⟨by decide, hdigits⟩, by decide⟩
  · refine List.forall_mem_singleton.mpr (Bool.eq_false_iff.mpr fun hcontrol => ?_)
    exact hhidden (isHidden_of_isControl hcontrol)

/-- A quoted text is a text on one line. -/
theorem isLine_encode (v : List Char) : IsLine (encode v) := by
  have hbody : IsLine (v.flatMap encodeChar) := by
    intro c hc
    obtain ⟨d, -, hc⟩ := List.mem_flatMap.mp hc
    exact isLine_encodeChar d c hc
  have hopening : IsLine ['"'] := by decide
  exact isLine_append.mpr ⟨isLine_append.mpr ⟨hopening, hbody⟩, hopening⟩

end Text.Quoted

/-- A quoted text is one string literal, and exact.  Between its quotes stand characters by themselves
and escapes, and these spell the text and nothing else; the first quote that no backslash escapes is
the last character.  So it is passed as one lexeme, its value is the text, and different texts have
different literals.  No control character stands in it as it is, and so no line break. -/
theorem quoted_is_literal (v : String) :
    ∃ body, (Text.quoted v).toList = '"' :: (body ++ ['"']) ∧
      (∀ value, Rust.Literal.Spells body value ↔ value = v.toList) ∧
      (∀ rest, Rust.Literal.untilQuote? (body ++ '"' :: rest) = some (body, rest)) ∧
      (∀ rest, rest.head?.any isStart = false →
        Rust.Literal.pass? ((Text.quoted v).toList ++ rest) = some rest) ∧
      Rust.Literal.stringValue? (Text.quoted v).toList = some v.toList ∧
      IsLine (Text.quoted v).toList ∧
      ∀ w, Text.quoted v = Text.quoted w ↔ v = w := by
  have hquoted (w : String) : (Text.quoted w).toList = encode w.toList := String.toList_ofList
  have hspells := Rust.Literal.spells_encode v.toList
  refine ⟨v.toList.flatMap encodeChar, hquoted v, ?_, hspells.untilQuote?_eq, ?_, ?_, ?_, ?_⟩
  · intro value
    constructor
    · exact fun h => h.unique hspells
    · rintro rfl
      exact hspells
  · intro rest hrest
    rw [hquoted]
    exact Rust.Literal.pass?_encode v.toList hrest
  · rw [hquoted]
    exact Rust.Literal.stringValue?_encode v.toList
  · rw [hquoted]
    exact Text.Quoted.isLine_encode v.toList
  · intro w
    constructor
    · intro heq
      have hvalue := Rust.Literal.stringValue?_encode v.toList
      rw [← hquoted, heq, hquoted, Rust.Literal.stringValue?_encode] at hvalue
      exact String.toList_injective (Option.some.inj hvalue).symm
    · rintro rfl
      rfl

/-- A backslash and a quote side by side, a line break, a control character beyond ASCII, and a
letter; a semicolon follows. -/
theorem quoted_is_literal_escapes :
    Text.quoted "\\\"\n\u0085é" = "\"\\\\\\\"\\n\\u\x7b85\x7dé\"" ∧
      Rust.Literal.pass? ((Text.quoted "\\\"\n\u0085é").toList ++ [';']) = some [';'] := by
  obtain ⟨body, -, -, -, hpass, -⟩ := quoted_is_literal "\\\"\n\u0085é"
  exact ⟨by decide +kernel, hpass [';'] (by decide)⟩

end ServiceStubs
