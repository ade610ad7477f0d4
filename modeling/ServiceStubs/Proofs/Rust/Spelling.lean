import ServiceStubs.Naming
import ServiceStubs.Proofs.Rust.Lexeme
import ServiceStubs.Proofs.Text.Comment
import ServiceStubs.Proofs.Text.Quoted

/-!
# Spelling

A lexeme is written out as a text, and is read back from it if what follows cannot be taken for a
part of it.  What may follow depends on the first character only, so the test for a whole layout is
a short computation.
-/

namespace ServiceStubs.Rust

open ServiceStubs.Naming (isIdentifierStart isIdentifierPart)
open ServiceStubs.Text.Identifier (isStart isPart)

/-! ## Words -/

/-- An ASCII word, as it may stand for an identifier. -/
def isWord : List Char → Bool
  | [] => false
  | c :: w => isIdentifierStart c && w.all isIdentifierPart

/-- Whether the next character keeps apart from a word before it: it continues no identifier, and
does not make the word the beginning of a literal. -/
def endsWord : List Char → Bool
  | [] => true
  | c :: _ => !isPart c && c != '"' && c != '#' && c != '\''

theorem toNat_of_isAlpha {c : Char} (h : c.isAlpha = true) : 65 ≤ c.toNat ∧ c.toNat ≤ 122 := by
  obtain hupper | hlower := (Bool.or_eq_true _ _).mp h
  · obtain ⟨hleft, hright⟩ : 65 ≤ c.val ∧ c.val ≤ 90 := of_decide_eq_true hupper
    have hle := UInt32.le_iff_toNat_le.mp hright
    exact ⟨UInt32.le_iff_toNat_le.mp hleft, Nat.le_trans hle (by decide)⟩
  · obtain ⟨hleft, hright⟩ := (Bool.and_eq_true _ _).mp hlower
    have hle : (97 : UInt32) ≤ c.val := of_decide_eq_true hleft
    have hge : c.val ≤ 122 := of_decide_eq_true hright
    exact ⟨Nat.le_trans (by decide) (UInt32.le_iff_toNat_le.mp hle),
      UInt32.le_iff_toNat_le.mp hge⟩

theorem toNat_of_isDigit {c : Char} (h : c.isDigit = true) : c.toNat ≤ 57 := by
  obtain ⟨-, hright⟩ := (Bool.and_eq_true _ _).mp h
  have hle : c.val ≤ 57 := of_decide_eq_true hright
  exact UInt32.le_iff_toNat_le.mp hle

theorem toNat_of_isIdentifierStart {c : Char} (h : isIdentifierStart c = true) :
    65 ≤ c.toNat ∧ c.toNat ≤ 122 := by
  simp only [isIdentifierStart, Bool.or_eq_true, beq_iff_eq] at h
  rcases h with h | rfl
  · exact toNat_of_isAlpha h
  · decide

theorem toNat_lt_of_isIdentifierPart {c : Char} (h : isIdentifierPart c = true) :
    c.toNat < 128 := by
  simp only [isIdentifierPart, Char.isAlphanum, Bool.or_eq_true, beq_iff_eq] at h
  rcases h with (h | h) | rfl
  · exact Nat.lt_of_le_of_lt (toNat_of_isAlpha h).2 (by decide)
  · exact Nat.lt_of_le_of_lt (toNat_of_isDigit h) (by decide)
  · decide

/-- What holds of ASCII characters can be found out below 128. -/
theorem forall_ascii {p : Char → Prop} (h : ∀ n < 128, p (Char.ofNat n)) {c : Char}
    (hc : c.toNat < 128) : p c := by
  have hp := h c.toNat hc
  rwa [Char.ofNat_toNat] at hp

theorem forall_isIdentifierPart {p : Char → Prop}
    (h : ∀ n < 128, isIdentifierPart (Char.ofNat n) = true → p (Char.ofNat n)) {c : Char}
    (hc : isIdentifierPart c = true) : p c :=
  forall_ascii (p := fun c => isIdentifierPart c = true → p c) h (toNat_lt_of_isIdentifierPart hc) hc

theorem isPart_of_isIdentifierPart {c : Char} (h : isIdentifierPart c = true) :
    isPart c = true := by
  rw [isPart, if_pos (toNat_lt_of_isIdentifierPart h)]
  exact h

theorem isIdentifierPart_of_isIdentifierStart {c : Char} (h : isIdentifierStart c = true) :
    isIdentifierPart c = true := by
  simp only [isIdentifierStart, isIdentifierPart, Char.isAlphanum, Bool.or_eq_true] at h ⊢
  grind

theorem isStart_of_isIdentifierStart {c : Char} (h : isIdentifierStart c = true) :
    isStart c = true := by
  have hpart := isIdentifierPart_of_isIdentifierStart h
  rw [isStart, if_pos (toNat_lt_of_isIdentifierPart hpart)]
  exact h

/-- No quote and no hash stands next, so the letters before do not begin a literal. -/
def IsQuiet (s : List Char) : Prop := ∀ c ∈ s.head?, c ≠ '"' ∧ c ≠ '#' ∧ c ≠ '\''

theorem isQuiet_of_endsWord {s : List Char} (h : endsWord s = true) : IsQuiet s := by
  cases s with
  | nil => simp [IsQuiet]
  | cons c s =>
    simp only [endsWord, Bool.and_eq_true, bne_iff_ne] at h
    simpa [IsQuiet] using ⟨h.1.1.2, h.1.2, h.2⟩

theorem isQuiet_append {w s : List Char} (hw : w.all isIdentifierPart = true)
    (hs : endsWord s = true) : IsQuiet (w ++ s) := by
  cases w with
  | nil => exact isQuiet_of_endsWord hs
  | cons c w =>
    have hc : isIdentifierPart c = true := by simp_all
    intro d hd
    obtain rfl : c = d := by simpa using hd
    refine ⟨?_, ?_, ?_⟩ <;> rintro rfl <;> exact absurd hc (by decide)

/-! ## No literal starts here -/

namespace Literal

variable {k : Kind} {s : List Char}

theorem raw?_eq_none (h : IsQuiet s) : raw? k s = none := by
  cases s with
  | nil => rfl
  | cons c s =>
    obtain ⟨hquote, hhash, -⟩ := h c rfl
    simp [raw?, hhash, hquote]

theorem isDigit_of_hexDigit?_lt {c : Char} {d : Nat} (h : hexDigit? c = some d) (hd : d < 10) :
    c.isDigit = true := by
  rw [hexDigit?] at h
  split_ifs at h with hdigit hlower hupper
  · exact hdigit
  · obtain rfl := Option.some.inj h
    omega
  · obtain rfl := Option.some.inj h
    omega

theorem wholeDigits?_eq_none {c : Char} (hdigit : c.isDigit = false) :
    wholeDigits? 10 (c :: s) = none := by
  rw [wholeDigits?, digits?]
  by_cases hgap : c = '_'
  · simp [hgap]
  · cases hd : hexDigit? c with
    | none => simp [hgap]
    | some d =>
      have hlarge : ¬d < 10 := by
        intro hlt
        rw [isDigit_of_hexDigit?_lt hd hlt] at hdigit
        cases hdigit
      simp [hgap, hlarge, hdigit]

theorem whole?_eq_none {c : Char} (hdigit : c.isDigit = false) : whole? (c :: s) = none := by
  have hzero : c ≠ '0' := by
    rintro rfl
    exact absurd hdigit (by decide)
  unfold whole?
  split
  · next heq => exact absurd (List.cons.inj heq).1 hzero
  · next heq => exact absurd (List.cons.inj heq).1 hzero
  · next heq => exact absurd (List.cons.inj heq).1 hzero
  · rw [wholeDigits?_eq_none hdigit]
    rfl

theorem float?_eq_none {c : Char} (hdigit : c.isDigit = false) : float? (c :: s) = none := by
  simp [float?, hdigit]

theorem isDigit_of_isIdentifierStart {c : Char} (h : isIdentifierStart c = true) :
    c.isDigit = false := by
  by_contra hdigit
  have hle := toNat_of_isDigit (eq_true_of_ne_false hdigit)
  have hstart := (toNat_of_isIdentifierStart h).1
  omega

/-- No literal goes on here after its letters, be it with the `r` of raw strings. -/
def IsTame (s : List Char) : Prop := IsQuiet s ∧ ∀ t, s = 'r' :: t → IsQuiet t

theorem isTame_append {w s : List Char} (hw : w.all isIdentifierPart = true)
    (hs : endsWord s = true) : IsTame (w ++ s) := by
  refine ⟨isQuiet_append hw hs, ?_⟩
  intro t ht
  cases w with
  | nil =>
    obtain rfl : s = 'r' :: t := ht
    have hr : isPart 'r' = true := by decide
    simp [endsWord, hr] at hs
  | cons c w =>
    obtain ⟨-, rfl⟩ := List.cons.inj ht
    exact isQuiet_append (by simp_all) hs

theorem strip?_quote_eq_none (h : IsQuiet s) : strip? ['"'] s = none := by
  cases s with
  | nil => rfl
  | cons c s => simp [strip?, (h c rfl).1.symm]

theorem string?_unmarked_eq_none {c : Char} (hc : c ≠ '"') (hs : IsTame s) :
    string? k ['"'] ['r'] (c :: s) = none := by
  simp only [string?, strip?, hc.symm, if_false]
  split_ifs
  · exact raw?_eq_none hs.1
  · rfl

theorem string?_marked_eq_none {c : Char} (mark : Char) (hs : IsTame s) :
    string? k [mark, '"'] [mark, 'r'] (c :: s) = none := by
  by_cases hmark : mark = c
  · have hcooked : strip? [mark, '"'] (c :: s) = none := by
      rw [strip?, if_pos hmark, strip?_quote_eq_none hs.1]
    have hraw : strip? [mark, 'r'] (c :: s) >>= raw? k = none := by
      rw [strip?, if_pos hmark]
      cases s with
      | nil => rfl
      | cons d t =>
        by_cases hd : 'r' = d
        · obtain rfl := hd
          simpa [strip?] using raw?_eq_none (hs.2 t rfl)
        · simp [strip?, hd]
    rw [string?, hcooked]
    exact hraw
  · simp [string?, strip?, hmark]

/-- A word is no literal, nor is its beginning. -/
theorem pass?_word {w rest : List Char} (hw : isWord w = true) (hrest : endsWord rest = true) :
    pass? (w ++ rest) = none := by
  cases w with
  | nil => cases hw
  | cons c w =>
    simp only [isWord, Bool.and_eq_true] at hw
    have htame := isTame_append hw.2 hrest
    have hdigit := isDigit_of_isIdentifierStart hw.1
    have hquote : c ≠ '"' := by
      rintro rfl
      exact absurd hw.1 (by decide)
    have hapostrophe : c ≠ '\'' := by
      rintro rfl
      exact absurd hw.1 (by decide)
    have hbyte : character bytes ['b', '\''] (c :: (w ++ rest)) = none := by
      by_cases hb : 'b' = c
      · cases hs : w ++ rest with
        | nil => simp [character, strip?]
        | cons d t =>
          have hd : '\'' ≠ d := (htame.1 d (by rw [hs]; rfl)).2.2.symm
          simp [character, strip?, hd]
      · simp [character, strip?, hb]
    have hcharacter : character plain ['\''] (c :: (w ++ rest)) = none := by
      simp [character, strip?, hapostrophe.symm]
    rw [List.cons_append, pass?, string?_unmarked_eq_none hquote htame,
      string?_marked_eq_none 'b' htame, string?_marked_eq_none 'c' htame, hbyte, hcharacter,
      float?_eq_none hdigit, whole?_eq_none hdigit]
    rfl

end Literal

namespace Token

/-! ## Identifiers and lifetimes -/

theorem takeWhile_isPart {w rest : List Char} (hw : w.all isIdentifierPart = true)
    (hrest : endsWord rest = true) :
    (w ++ rest).takeWhile isPart = w ∧ (w ++ rest).dropWhile isPart = rest := by
  have hparts : ∀ c ∈ w, isPart c = true := by
    intro c hc
    exact isPart_of_isIdentifierPart (List.all_eq_true.mp hw c hc)
  have hstop : rest.takeWhile isPart = [] ∧ rest.dropWhile isPart = rest := by
    cases rest with
    | nil => exact ⟨rfl, rfl⟩
    | cons c rest =>
      have hc : isPart c = false := by simp_all [endsWord]
      simp [hc]
  rw [List.takeWhile_append_of_pos hparts, List.dropWhile_append_of_pos hparts, hstop.1, hstop.2]
  simp

theorem ident?_word {w rest : List Char} (hw : isWord w = true) (hrest : endsWord rest = true) :
    ident? (w ++ rest) = some (w, rest) := by
  cases w with
  | nil => cases hw
  | cons c w =>
    simp only [isWord, Bool.and_eq_true] at hw
    have hspan := takeWhile_isPart hw.2 hrest
    have hquiet := isQuiet_append hw.2 hrest
    unfold ident?
    split
    · next r heq =>
      obtain ⟨-, htail⟩ := List.cons.inj heq
      have hhash : '#' ∈ (w ++ rest).head? := by
        rw [← List.append_eq, htail]
        rfl
      exact absurd rfl (hquiet '#' hhash).2.1
    · simp [plainIdent?, isStart_of_isIdentifierStart hw.1, hspan.1, hspan.2]

theorem bracket?_eq_none_of_isIdentifierStart {c : Char} (h : isIdentifierStart c = true) :
    bracket? c = none := by
  rw [bracket?]
  split_ifs with h₁ h₂ h₃ h₄ h₅ h₆
  all_goals first | rfl | (subst_vars; exact absurd h (by decide))

theorem startsPunct_eq_false_of_isIdentifierStart {c : Char} {s : List Char}
    (h : isIdentifierStart c = true) : startsPunct (c :: s) = false := by
  have hsigns : punctuation.all (fun p => !isIdentifierStart p) = true := by decide
  unfold startsPunct
  split
  · rfl
  · rfl
  · next heq =>
    obtain ⟨rfl, -⟩ := List.cons.inj heq
    by_contra hc
    have hmem : c ∈ punctuation := by simpa using hc
    have hsign := List.all_eq_true.mp hsigns c hmem
    rw [h] at hsign
    cases hsign
  · rfl

theorem startsPunct_word {w : List Char} (hw : isWord w = true) (rest : List Char) :
    startsPunct (w ++ rest) = false := by
  cases w with
  | nil => cases hw
  | cons c w =>
    simp only [isWord, Bool.and_eq_true] at hw
    exact startsPunct_eq_false_of_isIdentifierStart hw.1

theorem literalStarts_any_eq_false {c : Char} {s : List Char} (hs : Literal.IsTame s) :
    literalStarts.any (·.isPrefixOf (c :: s)) = false := by
  cases s with
  | nil => simp [literalStarts, List.isPrefixOf]
  | cons d t =>
    obtain ⟨hquote, hhash, hapostrophe⟩ := hs.1 d rfl
    by_cases hd : d = 'r'
    · subst hd
      cases t with
      | nil => simp [literalStarts, List.isPrefixOf]
      | cons e u =>
        obtain ⟨hquote, hhash, -⟩ := hs.2 (e :: u) rfl e rfl
        simp [literalStarts, List.isPrefixOf, hquote.symm, hhash.symm]
    · simp [literalStarts, List.isPrefixOf, hquote.symm, hhash.symm, hapostrophe.symm, Ne.symm hd]

/-- A word is an identifier as a whole. -/
theorem next?_word {w rest : List Char} (hw : isWord w = true) (hrest : endsWord rest = true) :
    next? (w ++ rest) = some (leaf (.ident (String.ofList w)), rest) := by
  have hliteral := Literal.pass?_word hw hrest
  have hident := ident?_word hw hrest
  cases w with
  | nil => cases hw
  | cons c w =>
    simp only [isWord, Bool.and_eq_true] at hw
    have htame := Literal.isTame_append hw.2 hrest
    simp only [List.cons_append] at hliteral hident ⊢
    simp only [next?, bracket?_eq_none_of_isIdentifierStart hw.1, hliteral,
      startsPunct_eq_false_of_isIdentifierStart hw.1, literalStarts_any_eq_false htame, hident]
    rfl

end Token

end ServiceStubs.Rust
