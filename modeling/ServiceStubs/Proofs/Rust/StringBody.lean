import Mathlib.Tactic.SplitIfs
import ServiceStubs.Rust.Literal

/-!
# Bodies of string literals

Between its quotes a string literal stands for one character after another, each written by itself
or by an escape.  A body of such parts is read as its characters, part by part: no part holds a
quote that could end the literal, and none changes how the next one is read.
-/

namespace ServiceStubs.Rust.Literal

open ServiceStubs.Text.Identifier (isStart)

/-! ## Parts -/

/-- So many hexadecimal digits with this value; there may be underscores behind the first. -/
inductive HexDigits : List Char → Nat → Nat → Prop where
  | first {c : Char} {d : Nat} (h : hexDigit? c = some d) : HexDigits [c] 1 d
  | digit {cs : List Char} {count value : Nat} {c : Char} {d : Nat}
      (front : HexDigits cs count value) (h : hexDigit? c = some d) :
      HexDigits (cs ++ [c]) (count + 1) (value * 16 + d)
  | gap {cs : List Char} {count value : Nat} (front : HexDigits cs count value) :
      HexDigits (cs ++ ['_']) count value

/-- An escape without its backslash, and the character that it stands for. -/
inductive IsEscape : List Char → Char → Prop where
  | letter {c d : Char} (h : letterEscape? c = some d) : IsEscape [c] d
  | ascii {a b : Char} {high low : Nat} (hhigh : hexDigit? a = some high)
      (hlow : hexDigit? b = some low) (hbound : high < 8) :
      IsEscape ['x', a, b] (Char.ofNat (high * 16 + low))
  | codePoint {digits : List Char} {count : Nat} {c : Char}
      (h : HexDigits digits count c.toNat) (hcount : count ≤ 6) :
      IsEscape ('u' :: '\x7b' :: (digits ++ ['\x7d'])) c

/-- A part of a body, and the character that it stands for.  A backslash at the end of a line stands
for none and is left out. -/
inductive Part : List Char → Char → Prop where
  | raw {c : Char} (h : c ∉ ['"', '\\', '\r']) : Part [c] c
  | escape {s : List Char} {c : Char} (h : IsEscape s c) : Part ('\\' :: s) c

/-- A body, and the value that its parts spell. -/
inductive Spells : List Char → List Char → Prop where
  | nil : Spells [] []
  | cons {part body value : List Char} {c : Char} (hpart : Part part c)
      (hbody : Spells body value) : Spells (part ++ body) (c :: value)

/-! ## Digits -/

section Digits

variable {c : Char} {cs s : List Char} {d count value : Nat}

theorem toNat_of_hexDigit? (h : hexDigit? c = some d) :
    (48 ≤ c.toNat ∧ c.toNat ≤ 70) ∨ (97 ≤ c.toNat ∧ c.toNat ≤ 102) := by
  have hle (a b : Char) (hab : a ≤ b) : a.toNat ≤ b.toNat := UInt32.le_iff_toNat_le.mp hab
  rw [hexDigit?] at h
  split_ifs at h with hdecimal hsmall hcapital
  · simp only [Bool.and_eq_true, decide_eq_true_eq] at hdecimal
    have hbelow : c.toNat ≤ 57 := hle c '9' hdecimal.2
    exact .inl ⟨hle '0' c hdecimal.1, by omega⟩
  · simp only [Bool.and_eq_true, decide_eq_true_eq] at hsmall
    exact .inr ⟨hle 'a' c hsmall.1, hle c 'f' hsmall.2⟩
  · simp only [Bool.and_eq_true, decide_eq_true_eq] at hcapital
    have habove : 65 ≤ c.toNat := hle 'A' c hcapital.1
    exact .inl ⟨by omega, hle c 'F' hcapital.2⟩

theorem codePoint?_digit (h : hexDigit? c = some d) (hcount : count < 6) (s : List Char) :
    codePoint? count value (c :: s) = codePoint? (count + 1) (value * 16 + d) s := by
  have hgap : c ≠ '_' := by
    rintro rfl
    cases h
  have hclose : c ≠ '\x7d' := by
    rintro rfl
    cases h
  rw [codePoint?]
  simp [hgap, hclose, h, Nat.ne_of_lt hcount]

theorem HexDigits.count_ne_zero (h : HexDigits cs count value) : count ≠ 0 := by
  induction h with
  | first => exact Nat.one_ne_zero
  | digit => exact Nat.succ_ne_zero _
  | gap _ ih => exact ih

/-- Digits are read back to their value, as long as there are no more than six of them. -/
theorem HexDigits.codePoint?_eq (h : HexDigits cs count value) (hcount : count ≤ 6)
    (s : List Char) : codePoint? 0 0 (cs ++ s) = codePoint? count value s := by
  induction h generalizing s with
  | first h =>
    rw [List.singleton_append, codePoint?_digit h (by decide)]
    simp
  | digit front h ih =>
    rw [List.append_assoc, ih (Nat.le_of_succ_le hcount), List.singleton_append,
      codePoint?_digit h hcount]
  | gap front ih =>
    rw [List.append_assoc, ih hcount, List.singleton_append, codePoint?]
    simp [front.count_ne_zero]

theorem isQuiet_of_hexDigit? (h : hexDigit? c = some d) : c ≠ '"' ∧ c ≠ '\\' := by
  constructor <;> rintro rfl <;> cases h

theorem HexDigits.isQuiet (h : HexDigits cs count value) : ∀ c ∈ cs, c ≠ '"' ∧ c ≠ '\\' := by
  induction h with
  | first h => exact List.forall_mem_singleton.mpr (isQuiet_of_hexDigit? h)
  | digit _ h ih =>
    exact List.forall_mem_append.mpr
      ⟨ih, List.forall_mem_singleton.mpr (isQuiet_of_hexDigit? h)⟩
  | gap _ ih => exact List.forall_mem_append.mpr ⟨ih, List.forall_mem_singleton.mpr (by decide)⟩

end Digits

/-! ## Escapes -/

section Escapes

variable {c : Char} {s t : List Char}

theorem character?_toNat (c : Char) : character? c.toNat = some c := by
  have hvalid : c.toNat.isValidChar := c.valid
  simp [character?, hvalid]

theorem escape?_letter {d : Char} (h : letterEscape? c = some d) (t : List Char) :
    escape? plain (c :: t) = some (d, t) := by
  have hascii : c ≠ 'x' := by
    rintro rfl
    cases h
  have hcodePoint : c ≠ 'u' := by
    rintro rfl
    cases h
  rw [escape?]
  · simp [plain, h]
  · exact fun _ _ _ h => absurd h hascii
  · exact fun _ h => absurd h hcodePoint

theorem IsEscape.escape?_eq (h : IsEscape s c) (t : List Char) :
    escape? plain (s ++ t) = some (c, t) := by
  cases h with
  | letter h => exact escape?_letter h t
  | ascii hhigh hlow hbound => simp [escape?, plain, hhigh, hlow, hbound]
  | @codePoint digits count _ h hcount =>
    have hread : codePoint? 0 0 (digits ++ '\x7d' :: t) = some (c.toNat, t) := by
      rw [h.codePoint?_eq hcount, codePoint?]
      simp [h.count_ne_zero]
    simp [escape?, plain, hread, character?_toNat]

theorem IsEscape.exists_cons (h : IsEscape s c) : ∃ first more, s = first :: more ∧
    (first ≠ '\n' ∧ first ≠ '\r') ∧ ∀ d ∈ more, d ≠ '"' ∧ d ≠ '\\' := by
  cases h with
  | letter h =>
    refine ⟨_, [], rfl, ⟨?_, ?_⟩, List.forall_mem_nil _⟩ <;> rintro rfl <;> cases h
  | ascii hhigh hlow hbound =>
    refine ⟨_, _, rfl, by decide, ?_⟩
    exact List.forall_mem_cons.mpr
      ⟨isQuiet_of_hexDigit? hhigh, List.forall_mem_singleton.mpr (isQuiet_of_hexDigit? hlow)⟩
  | codePoint h hcount =>
    refine ⟨_, _, rfl, by decide, ?_⟩
    refine List.forall_mem_cons.mpr ⟨by decide, List.forall_mem_append.mpr ⟨h.isQuiet, ?_⟩⟩
    exact List.forall_mem_singleton.mpr (by decide)

end Escapes

/-! ## The end of a body -/

/-- Cuts a text at the first quote that no backslash escapes. -/
def untilQuote? : List Char → Option (List Char × List Char)
  | [] => none
  | '"' :: s => some ([], s)
  | '\\' :: c :: s => (untilQuote? s).map fun p => ('\\' :: c :: p.1, p.2)
  | c :: s => (untilQuote? s).map fun p => (c :: p.1, p.2)

section Bodies

variable {c : Char} {part body value s : List Char}

theorem untilQuote?_append (h : ∀ c ∈ part, c ≠ '"' ∧ c ≠ '\\') (s : List Char) :
    untilQuote? (part ++ s) = (untilQuote? s).map fun p => (part ++ p.1, p.2) := by
  induction part with
  | nil => exact Option.map_id'.symm
  | cons c part ih =>
    obtain ⟨⟨hquote, hslash⟩, hpart⟩ := List.forall_mem_cons.mp h
    rw [List.cons_append, untilQuote?, ih hpart, Option.map_map]
    · rfl
    · exact hquote
    · exact fun _ _ h => absurd h hslash

/-- A part ends no literal. -/
theorem Part.untilQuote?_append (h : Part part c) (s : List Char) :
    untilQuote? (part ++ s) = (untilQuote? s).map fun p => (part ++ p.1, p.2) := by
  cases h with
  | raw h =>
    refine Literal.untilQuote?_append (List.forall_mem_singleton.mpr ⟨?_, ?_⟩) s
    · rintro rfl
      exact h (by decide)
    · rintro rfl
      exact h (by decide)
  | escape h =>
    -- The backslash takes the first character with it, and the others are neither quotes nor
    -- backslashes.
    obtain ⟨first, more, rfl, -, hmore⟩ := h.exists_cons
    rw [List.cons_append, List.cons_append, untilQuote?, Literal.untilQuote?_append hmore,
      Option.map_map]
    rfl

/-- A body ends at its quote and not before. -/
theorem Spells.untilQuote?_eq (h : Spells body value) (rest : List Char) :
    untilQuote? (body ++ '"' :: rest) = some (body, rest) := by
  induction h with
  | nil => rfl
  | cons hpart _ ih => rw [List.append_assoc, hpart.untilQuote?_append, ih, Option.map_some]

/-! ## The value of a body -/

/-- A part adds its character to the value. -/
theorem Part.cooked?_append (h : Part part c) (fuel : Nat) (s : List Char) :
    cooked? plain (fuel + 1) (part ++ s) =
      (cooked? plain fuel s).map fun p => (c :: p.1, p.2) := by
  cases h with
  | raw h =>
    rw [List.singleton_append, cooked?]
    · simp [plain]
    all_goals
      rintro rfl
      exact h (by decide)
  | escape h =>
    have hread := h.escape?_eq s
    obtain ⟨first, more, rfl, ⟨hline, hreturn⟩, -⟩ := h.exists_cons
    rw [List.cons_append] at hread
    rw [List.cons_append, List.cons_append, cooked?, hread]
    · cases hrest : cooked? plain fuel s <;> simp [hrest]
    · exact fun _ h => absurd (List.cons.inj h).1 hline
    · exact fun _ h => absurd (List.cons.inj h).1 hreturn

theorem Part.length_pos (h : Part part c) : 0 < part.length := by
  cases h with
  | raw => exact Nat.one_pos
  | escape => exact Nat.succ_pos _

theorem Spells.length_le (h : Spells body value) : value.length ≤ body.length := by
  induction h with
  | nil => exact Nat.le_refl 0
  | cons hpart _ ih =>
    have hpos := hpart.length_pos
    rw [List.length_cons, List.length_append]
    omega

/-- A body is read up to its quote. -/
theorem Spells.cooked?_eq (h : Spells body value) (rest : List Char) {fuel : Nat}
    (hfuel : value.length < fuel) :
    cooked? plain fuel (body ++ '"' :: rest) = some (value, rest) := by
  induction h generalizing fuel with
  | nil =>
    obtain ⟨fuel, rfl⟩ := Nat.exists_eq_add_one_of_ne_zero (Nat.ne_of_gt hfuel)
    rfl
  | cons hpart _ ih =>
    obtain ⟨fuel, rfl⟩ := Nat.exists_eq_add_one_of_ne_zero (Nat.ne_of_gt (Nat.zero_lt_of_lt hfuel))
    rw [List.append_assoc, hpart.cooked?_append, ih (Nat.lt_of_succ_lt_succ hfuel),
      Option.map_some]

theorem Spells.stringValue?_eq (h : Spells body value) :
    stringValue? ('"' :: (body ++ ['"'])) = some value := by
  have hlength := h.length_le
  have hfuel : value.length < (body ++ ['"']).length + 1 := by
    rw [List.length_append]
    omega
  simp only [stringValue?, h.cooked?_eq [] hfuel]

/-- A body has one value. -/
theorem Spells.unique {value' : List Char} (h : Spells body value) (h' : Spells body value') :
    value = value' :=
  Option.some.inj (h.stringValue?_eq.symm.trans h'.stringValue?_eq)

/-- A literal is passed as a whole, unless what follows would be its suffix. -/
theorem Spells.pass?_eq (h : Spells body value) {rest : List Char}
    (hrest : rest.head?.any isStart = false) :
    pass? ('"' :: (body ++ '"' :: rest)) = some rest := by
  have hsuffix : afterSuffix rest = rest := by
    cases rest with
    | nil => rfl
    | cons c rest =>
      have hc : isStart c = false := hrest
      simp [afterSuffix, hc]
  have hlength := h.length_le
  have hcooked : afterCooked plain (body ++ '"' :: rest) = some rest := by
    rw [afterCooked, h.cooked?_eq rest (by simp only [List.length_append]; omega)]
    simp [hsuffix]
  simp [pass?, string?, strip?, hcooked]

end Bodies

end ServiceStubs.Rust.Literal
