import Mathlib.Data.List.TakeDrop
import ServiceStubs.Rust.Lexer

/-!
# Scanners make progress

What a scanner leaves is shorter than what it was given.  So a text has no more tokens than
characters, and the bound on the number of rounds never cuts a text short.
-/

namespace ServiceStubs.Rust

theorem length_dropWhile_le {α : Type} (p : α → Bool) (s : List α) :
    (s.dropWhile p).length ≤ s.length :=
  (List.dropWhile_suffix p).length_le

/-- A result whose first part was mapped has its second part from before. -/
theorem exists_of_map_fst {α β γ : Type} {o : Option (α × β)} {f : α → γ} {v : γ} {r : β}
    (h : (o.map fun p => (f p.1, p.2)) = some (v, r)) : ∃ w, o = some (w, r) := by
  obtain ⟨⟨w, u⟩, ho, hw⟩ := Option.map_eq_some_iff.mp h
  cases hw
  exact ⟨w, ho⟩

namespace Literal

variable {k : Kind} {s r : List Char}

theorem length_strip? {p s r : List Char} (h : strip? p s = some r) :
    r.length + p.length = s.length := by
  induction p generalizing s with
  | nil => simp_all [strip?]
  | cons c p ih =>
    cases s with
    | nil => simp [strip?] at h
    | cons d s =>
      rw [strip?] at h
      split_ifs at h
      have hlength := ih h
      simp only [List.length_cons]
      omega

theorem length_afterSuffix_le (s : List Char) : (afterSuffix s).length ≤ s.length := by
  cases s with
  | nil => simp [afterSuffix]
  | cons c s =>
    rw [afterSuffix]
    split_ifs
    · exact Nat.le_succ_of_le (length_dropWhile_le _ s)
    · exact Nat.le_refl _

/-! ## Escapes and strings -/

theorem length_codePoint? {digits value n : Nat} (h : codePoint? digits value s = some (n, r)) :
    r.length < s.length := by
  fun_induction codePoint? digits value s <;> grind

theorem length_escape? {c : Char} (h : escape? k s = some (c, r)) : r.length < s.length := by
  unfold escape? at h
  split at h
  · split at h
    · split_ifs at h
      grind
    · cases h
  · split_ifs at h
    obtain ⟨⟨n, t⟩, ht, h⟩ := Option.bind_eq_some_iff.mp h
    obtain ⟨d, hd, h⟩ := Option.bind_eq_some_iff.mp h
    have hlength := length_codePoint? ht
    split_ifs at h
    grind
  · obtain ⟨d, hd, h⟩ := Option.bind_eq_some_iff.mp h
    split_ifs at h
    grind
  · cases h

theorem length_afterLineEnd (h : afterLineEnd s = some r) : r.length ≤ s.length := by
  fun_induction afterLineEnd s <;> grind

theorem length_cooked? {fuel : Nat} {v : List Char} (h : cooked? k fuel s = some (v, r)) :
    r.length < s.length := by
  induction fuel generalizing s v with
  | zero => cases h
  | succ fuel ih =>
    have hline : ∀ t, afterLineEnd t >>= cooked? k fuel = some (v, r) → r.length < t.length := by
      intro t hbind
      obtain ⟨u, hu, hread⟩ := Option.bind_eq_some_iff.mp hbind
      exact Nat.lt_of_lt_of_le (ih hread) (length_afterLineEnd hu)
    rw [cooked?.eq_def] at h
    simp only at h
    split at h
    · cases h
    · cases h
    · grind
    · next n t heq =>
      obtain rfl : fuel = n := Nat.succ.inj heq
      split at h
      · obtain ⟨w, hw⟩ := exists_of_map_fst (f := ('\n' :: ·)) h
        have hrest := ih hw
        simp only [List.length_cons]
        omega
      · cases h
    · next n t heq =>
      obtain rfl : fuel = n := Nat.succ.inj heq
      split at h
      · have hrest := hline _ h
        simp only [List.length_cons]
        omega
      · have hrest := hline _ h
        simp only [List.length_cons]
        omega
      · obtain ⟨⟨c, t⟩, ht, h⟩ := Option.bind_eq_some_iff.mp h
        obtain ⟨⟨w, u⟩, hu, h⟩ := Option.bind_eq_some_iff.mp h
        have hescape := length_escape? ht
        cases h
        have hread : u.length < t.length := ih hu
        simp only [List.length_cons]
        omega
    · next n c t _ _ _ heq =>
      obtain rfl : fuel = n := Nat.succ.inj heq
      split_ifs at h
      obtain ⟨w, hw⟩ := exists_of_map_fst (f := (c :: ·)) h
      have hrest := ih hw
      simp only [List.length_cons]
      omega

theorem length_afterRaw {hashes : List Char} (h : afterRaw k hashes s = some r) :
    r.length < s.length := by
  fun_induction afterRaw k hashes s <;> grind [→ length_strip?]

theorem length_raw? (h : raw? k s = some r) : r.length < s.length := by
  simp only [raw?] at h
  have hdrop := length_dropWhile_le (· == '#') s
  split at h
  · next t ht =>
    rw [ht] at hdrop
    split_ifs at h
    obtain ⟨u, hu, rfl⟩ := Option.map_eq_some_iff.mp h
    have hraw := length_afterRaw hu
    have hsuffix := length_afterSuffix_le u
    simp only [List.length_cons] at hdrop
    omega
  · cases h

theorem length_afterCooked (h : afterCooked k s = some r) : r.length < s.length := by
  obtain ⟨⟨v, t⟩, ht, rfl⟩ := Option.map_eq_some_iff.mp h
  exact Nat.lt_of_le_of_lt (length_afterSuffix_le t) (length_cooked? ht)

theorem length_string? {cookedStart rawStart : List Char}
    (h : string? k cookedStart rawStart s = some r) : r.length < s.length := by
  rw [string?] at h
  split at h
  · next t ht =>
    have hstart := length_strip? ht
    have hcooked := length_afterCooked h
    omega
  · obtain ⟨t, ht, h⟩ := Option.bind_eq_some_iff.mp h
    have hstart := length_strip? ht
    have hraw := length_raw? h
    omega

theorem length_oneCharacter? (h : oneCharacter? k s = some r) : r.length < s.length := by
  unfold oneCharacter? at h
  split at h
  · cases h
  · obtain ⟨⟨c, t⟩, ht, rfl⟩ := Option.map_eq_some_iff.mp h
    have hescape := length_escape? ht
    simp only [List.length_cons]
    omega
  · split_ifs at h
    grind

theorem length_character {start : List Char} (h : character k start s = some r) :
    r.length < s.length := by
  obtain ⟨t, ht, h⟩ := Option.bind_eq_some_iff.mp h
  obtain ⟨u, hu, h⟩ := Option.bind_eq_some_iff.mp h
  have hstart := length_strip? ht
  have hone := length_oneCharacter? hu
  split at h
  · next w =>
    have hsuffix := length_afterSuffix_le w
    cases h
    simp only [List.length_cons] at hone
    omega
  · cases h

/-! ## Numbers -/

theorem length_endNumber (h : endNumber s = some r) : r.length ≤ s.length := by
  have hsuffix := length_afterSuffix_le s
  rw [endNumber] at h
  split at h <;> grind

theorem length_exponent? {sign digit found : Bool} (h : exponent? sign digit s = some (found, r)) :
    r.length ≤ s.length := by
  fun_induction exponent? sign digit s <;> grind

theorem length_withExponent {hasPoint : Bool} {letter : Char}
    (h : withExponent hasPoint letter s = some r) : r.length ≤ s.length + 1 := by
  rw [withExponent] at h
  split at h
  · next t ht =>
    have hexponent := length_exponent? ht
    cases h
    omega
  · split_ifs at h
    cases h
    simp

theorem length_afterPoint (h : afterPoint s = some r) : r.length ≤ s.length := by
  unfold afterPoint at h
  split at h
  · cases h
    exact Nat.le_refl _
  · next c t =>
    have hdrop := length_dropWhile_le isDigitOrGap (c :: t)
    split_ifs at h
    split at h <;> grind [→ length_withExponent]

theorem length_float? (h : float? s = some r) : r.length < s.length := by
  unfold float? at h
  split at h
  · cases h
  · next c t =>
    split_ifs at h
    have hdrop := length_dropWhile_le isDigitOrGap t
    simp only [Option.bind_eq_bind, Option.bind_none] at h
    split at h <;>
      grind [Option.bind_eq_some_iff, → length_endNumber, → length_afterPoint,
        → length_withExponent]

/-- A run of digits that holds one takes something. -/
theorem length_digits? {base : Nat} {found some? : Bool}
    (h : digits? base found s = some (some?, r)) :
    r.length ≤ s.length ∧ (found = false → some? = true → r.length < s.length) := by
  fun_induction digits? base found s <;> grind

theorem length_wholeDigits? {base : Nat} (h : wholeDigits? base s = some r) :
    r.length < s.length := by
  rw [wholeDigits?] at h
  split at h
  · next t ht =>
    cases h
    exact (length_digits? ht).2 rfl rfl
  · cases h

theorem length_whole? (h : whole? s = some r) : r.length < s.length := by
  unfold whole? at h
  simp only [Option.bind_eq_bind] at h
  split at h <;> grind [Option.bind_eq_some_iff, → length_endNumber, → length_wholeDigits?]

theorem length_pass? (h : pass? s = some r) : r.length < s.length := by
  simp only [pass?, Option.orElse_eq_orElse, Option.orElse_eq_or, Option.or_eq_some_iff] at h
  rcases h with h | ⟨-, h | ⟨-, h | ⟨-, h | ⟨-, h | ⟨-, h | ⟨-, h⟩⟩⟩⟩⟩⟩
  · exact length_string? h
  · exact length_string? h
  · exact length_string? h
  · exact length_character h
  · exact length_character h
  · exact length_float? h
  · exact length_whole? h

end Literal

namespace Token

open ServiceStubs.Text.Identifier (isPart)

/-! ## Comments -/

theorem length_splitLine_le (s : List Char) : (splitLine s).2.length ≤ s.length := by
  fun_induction splitLine s <;> grind

theorem length_splitBlock {depth : Nat} {s inside r : List Char}
    (h : splitBlock depth s = some (inside, r)) : r.length < s.length := by
  fun_induction splitBlock depth s generalizing inside with
  | case1 => cases h
  | case2 depth s ih =>
    obtain ⟨w, hw⟩ := exists_of_map_fst (f := fun w => '/' :: '*' :: w) h
    have hrest := ih hw
    simp only [List.length_cons]
    omega
  | case3 s => grind
  | case4 depth s ih =>
    obtain ⟨w, hw⟩ := exists_of_map_fst (f := fun w => '*' :: '/' :: w) h
    have hrest := ih hw
    simp only [List.length_cons]
    omega
  | case5 depth c s _ _ _ ih =>
    obtain ⟨w, hw⟩ := exists_of_map_fst (f := (c :: ·)) h
    have hrest := ih hw
    simp only [List.length_cons]
    omega

theorem length_docComment? {s content r : List Char} {inner : Bool}
    (h : docComment? s = some (inner, content, r)) : r.length < s.length := by
  unfold docComment? at h
  split at h
  · next t =>
    have hline := length_splitLine_le t
    grind
  · obtain ⟨p, hp, h⟩ := Option.map_eq_some_iff.mp h
    have hblock := length_splitBlock hp
    grind
  · next t =>
    have hline := length_splitLine_le t
    split at h <;> grind
  · split at h
    · cases h
    · obtain ⟨p, hp, h⟩ := Option.map_eq_some_iff.mp h
      have hblock := length_splitBlock hp
      grind
  · cases h

/-! ## Tokens -/

theorem length_plainIdent? {s name r : List Char} (h : plainIdent? s = some (name, r)) :
    r.length < s.length := by
  unfold plainIdent? at h
  split at h
  · cases h
  · next c t =>
    have hdrop := length_dropWhile_le isPart t
    grind

theorem length_ident? {s name r : List Char} (h : ident? s = some (name, r)) :
    r.length < s.length := by
  unfold ident? at h
  split at h
  · split at h <;> grind [→ length_plainIdent?]
  · exact length_plainIdent? h

theorem length_lifetime? {s r : List Char} {t : Token} (h : lifetime? s = some (t, r)) :
    r.length < s.length := by
  rw [lifetime?] at h
  split at h
  · cases h
  · next name u hu =>
    have hident := length_ident? hu
    split at h <;> grind

/-- A token takes at least one character. -/
theorem length_next? {s r : List Char} {t : Token} (h : next? s = some (t, r)) :
    r.length < s.length := by
  unfold next? at h
  split at h
  · cases h
  · split at h
    · grind
    · split at h
      · next u hu =>
        have hpass := Literal.length_pass? hu
        grind
      · split_ifs at h
        · exact Nat.lt_succ_of_lt (length_lifetime? h)
        · grind
        · obtain ⟨name, hname⟩ :=
            exists_of_map_fst (f := fun name => leaf (.ident (String.ofList name))) h
          exact length_ident? hname

end Token

end ServiceStubs.Rust
