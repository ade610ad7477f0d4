import Mathlib.Tactic.SplitIfs
import ServiceStubs.Json.Reader
import ServiceStubs.Json.Writer

/-!
# Strings are read back

What the writer puts between quotes is read back as the text it was, and the reader stops behind the
closing quote.  Each character is read back from its own spelling, so the text goes character by
character.
-/

namespace ServiceStubs.Json

open ServiceStubs.Json.Value (hexDigit encodeChar encodeString)

variable {c : Char} {cs s rest rest' : List Char} {fuel : Nat}

/-! ## Numeric escapes -/

theorem hexValue?_hexDigit {n : Nat} (h : n < 16) : hexValue? (hexDigit n) = some n := by
  have hall : ∀ m < 16, hexValue? (hexDigit m) = some m := by decide
  exact hall n h

theorem length_le_byteLength (s : List Char) : s.length ≤ byteLength s := by
  induction s with
  | nil => exact Nat.le_refl _
  | cons c s ih =>
    have hpos := c.utf8Size_pos
    rw [List.length_cons, byteLength]
    omega

theorem readHex4_control {n : Nat} (h : n < 0x20) (rest : List Char) :
    readHex4 ('0' :: '0' :: hexDigit (n / 16) :: hexDigit (n % 16) :: rest) = .ok (n, rest) := by
  have hlength :=
    length_le_byteLength ('0' :: '0' :: hexDigit (n / 16) :: hexDigit (n % 16) :: rest)
  simp only [List.length_cons] at hlength
  have hzero : hexValue? '0' = some 0 := by decide
  have hhigh : hexValue? (hexDigit (n / 16)) = some (n / 16) := hexValue?_hexDigit (by omega)
  have hlow : hexValue? (hexDigit (n % 16)) = some (n % 16) := hexValue?_hexDigit (by omega)
  have hvalue : ((0 * 16 + 0) * 16 + n / 16) * 16 + n % 16 = n := by omega
  rw [readHex4, if_neg (by omega)]
  simp only [hzero, hhigh, hlow, hvalue]

/-- No control character is half of a pair. -/
theorem readEscape_control (h : c.toNat < 0x20) (rest : List Char) :
    readEscape ('u' :: '0' :: '0' :: hexDigit (c.toNat / 16) :: hexDigit (c.toNat % 16) :: rest) =
      .ok (c, rest) := by
  have htrailing : isTrailing c.toNat = false := by
    simp only [isTrailing, Bool.and_eq_false_iff, decide_eq_false_iff_not]
    omega
  have hleading : isLeading c.toNat = false := by
    simp only [isLeading, Bool.and_eq_false_iff, decide_eq_false_iff_not]
    omega
  rw [readEscape, if_pos rfl, readUnicodeEscape, readHex4_control h]
  show (if isTrailing c.toNat = true then _ else _) = _
  rw [htrailing, hleading, if_neg Bool.false_ne_true, if_neg Bool.false_ne_true, Char.ofNat_toNat]

/-! ## Characters -/

theorem readChars_escape (hescape : readEscape s = .ok (c, rest))
    (h : readChars fuel rest = .ok (cs, rest')) :
    readChars (fuel + 1) ('\\' :: s) = .ok (c :: cs, rest') := by
  rw [readChars, if_neg (by decide), if_pos rfl, hescape]
  show (readChars fuel rest >>= fun p => Except.ok (c :: p.1, p.2)) = _
  rw [h]
  rfl

theorem readChars_plain (hquote : c ≠ '"') (hbackslash : c ≠ '\\') (hcontrol : ¬ c.toNat < 0x20)
    (h : readChars fuel rest = .ok (cs, rest')) :
    readChars (fuel + 1) (c :: rest) = .ok (c :: cs, rest') := by
  rw [readChars, if_neg hquote, if_neg hbackslash, if_neg hcontrol, h]
  rfl

/-- A character is read back from its spelling, in one round. -/
theorem readChars_encodeChar (c : Char) (h : readChars fuel rest = .ok (cs, rest')) :
    readChars (fuel + 1) (encodeChar c ++ rest) = .ok (c :: cs, rest') := by
  rw [encodeChar]
  split_ifs with hquote hbackslash hbackspace hfeed hline hreturn htab hcontrol
  · subst hquote
    exact readChars_escape rfl h
  · subst hbackslash
    exact readChars_escape rfl h
  · subst hbackspace
    exact readChars_escape rfl h
  · subst hfeed
    exact readChars_escape rfl h
  · subst hline
    exact readChars_escape rfl h
  · subst hreturn
    exact readChars_escape rfl h
  · subst htab
    exact readChars_escape rfl h
  · exact readChars_escape (readEscape_control hcontrol rest) h
  · exact readChars_plain hquote hbackslash hcontrol h

theorem readChars_encode (hfuel : cs.length < fuel) :
    readChars fuel (cs.flatMap encodeChar ++ '"' :: rest) = .ok (cs, rest) := by
  induction cs generalizing fuel with
  | nil =>
    obtain ⟨fuel, rfl⟩ := Nat.exists_eq_add_one_of_ne_zero (Nat.ne_of_gt hfuel)
    rfl
  | cons c cs ih =>
    obtain ⟨fuel, rfl⟩ := Nat.exists_eq_add_one_of_ne_zero (Nat.ne_of_gt (Nat.zero_lt_of_lt hfuel))
    rw [List.flatMap_cons, List.append_assoc]
    exact readChars_encodeChar c (ih (Nat.lt_of_succ_lt_succ hfuel))

/-! ## Strings -/

theorem length_encodeChar_pos (c : Char) : 0 < (encodeChar c).length := by
  rw [encodeChar]
  split_ifs <;> exact Nat.succ_pos _

/-- No spelling is empty, so the characters of the text are no more than those written. -/
theorem length_le_flatMap_encodeChar (cs : List Char) :
    cs.length ≤ (cs.flatMap encodeChar).length := by
  induction cs with
  | nil => exact Nat.le_refl _
  | cons c cs ih =>
    have hpos := length_encodeChar_pos c
    rw [List.flatMap_cons, List.length_append, List.length_cons]
    omega

theorem readStringBody_encode (s : String) (rest : List Char) :
    readStringBody (s.toList.flatMap encodeChar ++ '"' :: rest) = .ok (s, rest) := by
  have hlength := length_le_flatMap_encodeChar s.toList
  have hfuel : s.toList.length <
      (s.toList.flatMap encodeChar ++ '"' :: rest).length + 1 := by
    rw [List.length_append]
    omega
  rw [readStringBody, readChars_encode hfuel]
  show Except.ok (String.ofList s.toList, rest) = _
  rw [String.ofList_toList]

end ServiceStubs.Json
