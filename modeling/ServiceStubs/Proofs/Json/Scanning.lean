import Mathlib.Data.List.TakeWhile
import ServiceStubs.Proofs.Json.Grammar
import ServiceStubs.Proofs.Result

/-!
# What scanners take

Each scanner of the reader takes exactly the texts of its part of the grammar.  Blanks, brackets and
strings show by themselves where they end; a number is taken up to where it cannot go on, so what
follows it must not look like more of it.
-/

namespace ServiceStubs.Json

variable {c : Char} {n : Nat} {gap word cs s r rest : List Char} {fuel : Nat}

/-! ## Blanks -/

theorem skipBlanks_eq_nil : skipBlanks s = [] ↔ IsGap s := by
  rw [skipBlanks, List.dropWhile_eq_nil_iff]
  rfl

theorem exists_gap (s : List Char) : ∃ gap, IsGap gap ∧ s = gap ++ skipBlanks s :=
  ⟨s.takeWhile isJsonBlank, fun _ h => List.mem_takeWhile_imp h,
    List.takeWhile_append_dropWhile.symm⟩

theorem skipBlanks_eq_cons :
    skipBlanks s = c :: r ↔ isJsonBlank c = false ∧ ∃ gap, IsGap gap ∧ s = gap ++ c :: r := by
  constructor
  · intro h
    obtain ⟨gap, hgap, hs⟩ := exists_gap s
    rw [h] at hs
    have hhead := List.head?_dropWhile_not isJsonBlank s
    rw [← skipBlanks, h] at hhead
    exact ⟨by simpa using hhead, gap, hgap, hs⟩
  · rintro ⟨hc, gap, hgap, rfl⟩
    exact skipBlanks_gap_cons hgap hc r

theorem skipBlanks_value (hgap : IsGap gap) (h : IsValue word) (rest : List Char) :
    skipBlanks (gap ++ (word ++ rest)) = word ++ rest := by
  obtain ⟨c, t, rfl, hc⟩ := h.starts
  exact skipBlanks_gap_cons hgap (isJsonBlank_of_startsValue hc) _

/-! ## Single characters and letters -/

theorem readColon_eq_ok : readColon s = .ok r ↔ ∃ gap, IsGap gap ∧ s = gap ++ ':' :: r := by
  rw [readColon]
  constructor
  · intro h
    split at h
    · cases h
    · next c rest hskip =>
      split at h
      · next hc =>
        obtain rfl := Except.ok.inj h
        obtain ⟨-, hs⟩ := skipBlanks_eq_cons.mp (hc ▸ hskip)
        exact hs
      · cases h
  · rintro ⟨gap, hgap, rfl⟩
    rw [skipBlanks_gap_cons hgap (by decide)]
    rfl

theorem readColon_gap (hgap : IsGap gap) (s : List Char) : readColon (gap ++ ':' :: s) = .ok s :=
  readColon_eq_ok.mpr ⟨gap, hgap, rfl⟩

theorem readIdent_eq_ok : readIdent word s = .ok r ↔ s = word ++ r := by
  induction word generalizing s with
  | nil => exact ⟨fun h => Except.ok.inj h, fun h => congrArg Except.ok h⟩
  | cons e expected ih =>
    cases s with
    | nil => exact ⟨nofun, nofun⟩
    | cons c rest =>
      rw [readIdent, List.cons_append, List.cons.injEq]
      by_cases hc : c = e
      · rw [if_pos hc, ih]
        exact ⟨fun h => ⟨hc, h⟩, And.right⟩
      · rw [if_neg hc]
        exact ⟨nofun, fun h => absurd h.1 hc⟩

/-! ## Escapes -/

theorem readHex4_eq_ok :
    readHex4 s = .ok (n, r) ↔ ∃ digits, IsHex4 digits n ∧ s = digits ++ r := by
  constructor
  · intro h
    unfold readHex4 at h
    split at h
    · cases h
    · split at h
      · next a b c d rest _ =>
        split at h
        · next ha hb hc hd =>
          obtain ⟨rfl, rfl⟩ := Prod.mk.inj (Except.ok.inj h)
          exact ⟨[a, b, c, d], .intro ha hb hc hd, rfl⟩
        · cases h
      · cases h
  · rintro ⟨_, @⟨a, b, c, d, i, j, k, l, ha, hb, hc, hd⟩, rfl⟩
    have hlength := length_le_byteLength (a :: b :: c :: d :: r)
    simp only [List.length_cons] at hlength
    show readHex4 (a :: b :: c :: d :: r) = _
    rw [readHex4, if_neg (by omega)]
    simp only [ha, hb, hc, hd]

theorem readBetween_eq_ok : readBetween c s = .ok r ↔ s = c :: r := by
  cases s with
  | nil => exact ⟨nofun, nofun⟩
  | cons d rest =>
    rw [readBetween, List.cons.injEq]
    by_cases hd : d = c
    · rw [if_pos hd, Except.ok.injEq]
      exact ⟨fun h => ⟨hd, h⟩, And.right⟩
    · rw [if_neg hd]
      exact ⟨nofun, fun h => absurd h.1 hd⟩

theorem isTrailing_eq_false_of_isLeading (h : isLeading n = true) : isTrailing n = false := by
  simp only [isLeading, Bool.and_eq_true, decide_eq_true_eq] at h
  simp only [isTrailing, Bool.and_eq_false_iff, decide_eq_false_iff_not]
  omega

theorem readUnicodeEscape_eq_ok :
    readUnicodeEscape s = .ok (c, r) ↔ ∃ word, IsEscape ('u' :: word) c ∧ s = word ++ r := by
  constructor
  · intro h
    rw [readUnicodeEscape, bind_eq_ok] at h
    obtain ⟨⟨n, rest⟩, hdigits, h⟩ := h
    obtain ⟨digits, hhex, rfl⟩ := readHex4_eq_ok.mp hdigits
    dsimp only at h
    split at h
    · cases h
    · next htrailing =>
      split at h
      · next hleading =>
        simp only [bind_eq_ok, readBetween_eq_ok] at h
        obtain ⟨_, rfl, _, rfl, ⟨m, rest⟩, hdigits', h⟩ := h
        obtain ⟨digits', hhex', rfl⟩ := readHex4_eq_ok.mp hdigits'
        split at h
        · next htrailing' =>
          obtain ⟨rfl, rfl⟩ := Prod.mk.inj (Except.ok.inj h)
          exact ⟨_, .pair hhex hleading hhex' htrailing', by
            simp only [List.append_assoc, List.cons_append]⟩
        · cases h
      · next hleading =>
        obtain ⟨rfl, rfl⟩ := Prod.mk.inj (Except.ok.inj h)
        exact ⟨digits, .unit hhex (Bool.eq_false_iff.mpr hleading)
          (Bool.eq_false_iff.mpr htrailing), rfl⟩
  · rintro ⟨word, hescape, rfl⟩
    generalize hword : 'u' :: word = escape at hescape
    cases hescape with
    | letter h =>
      obtain ⟨rfl, -⟩ := List.cons.inj hword
      cases h
    | unit h hleading htrailing =>
      obtain ⟨-, rfl⟩ := List.cons.inj hword
      refine bind_eq_ok.mpr ⟨_, readHex4_eq_ok.mpr ⟨_, h, rfl⟩, ?_⟩
      dsimp only
      rw [htrailing, hleading, if_neg Bool.false_ne_true, if_neg Bool.false_ne_true]
    | @pair digits digits' n m h hleading h' htrailing =>
      obtain ⟨-, rfl⟩ := List.cons.inj hword
      have hfirst := isTrailing_eq_false_of_isLeading hleading
      rw [List.append_assoc, List.cons_append, List.cons_append]
      refine bind_eq_ok.mpr ⟨_, readHex4_eq_ok.mpr ⟨_, h, rfl⟩, ?_⟩
      dsimp only
      rw [hfirst, hleading, if_neg Bool.false_ne_true, if_pos rfl]
      refine bind_eq_ok.mpr ⟨_, readBetween_eq_ok.mpr rfl, ?_⟩
      refine bind_eq_ok.mpr ⟨_, readBetween_eq_ok.mpr rfl, ?_⟩
      refine bind_eq_ok.mpr ⟨_, readHex4_eq_ok.mpr ⟨_, h', rfl⟩, ?_⟩
      dsimp only
      rw [if_pos htrailing]

theorem readEscape_eq_ok :
    readEscape s = .ok (c, r) ↔ ∃ escape, IsEscape escape c ∧ s = escape ++ r := by
  constructor
  · intro h
    cases s with
    | nil => cases h
    | cons letter rest =>
      rw [readEscape] at h
      split at h
      · next hu =>
        obtain ⟨word, hescape, rfl⟩ := readUnicodeEscape_eq_ok.mp h
        exact ⟨'u' :: word, hescape, by rw [hu, List.cons_append]⟩
      · split at h
        · next d hletter =>
          obtain ⟨rfl, rfl⟩ := Prod.mk.inj (Except.ok.inj h)
          exact ⟨[letter], .letter hletter, rfl⟩
        · cases h
  · rintro ⟨escape, hescape, rfl⟩
    have hunicode : ∀ word, IsEscape ('u' :: word) c →
        readEscape ('u' :: word ++ r) = .ok (c, r) := by
      intro word hword
      rw [List.cons_append, readEscape, if_pos rfl]
      exact readUnicodeEscape_eq_ok.mpr ⟨word, hword, rfl⟩
    cases hescape with
    | @letter letter c h =>
      have hu : letter ≠ 'u' := by
        rintro rfl
        cases h
      show readEscape (letter :: r) = _
      rw [readEscape, if_neg hu, h]
    | unit h hleading htrailing => exact hunicode _ (.unit h hleading htrailing)
    | pair h hleading h' htrailing => exact hunicode _ (.pair h hleading h' htrailing)

/-! ## Strings -/

theorem exists_spells (h : readChars fuel s = .ok (cs, r)) :
    ∃ word, Spells word cs ∧ s = word ++ '"' :: r := by
  induction fuel generalizing s cs with
  | zero => cases h
  | succ fuel ih =>
    cases s with
    | nil => cases h
    | cons c rest =>
      rw [readChars] at h
      split at h
      · next hquote =>
        obtain ⟨rfl, rfl⟩ := Prod.mk.inj (Except.ok.inj h)
        exact ⟨[], .nil, by rw [hquote, List.nil_append]⟩
      · next hquote =>
        split at h
        · next hbackslash =>
          obtain ⟨⟨d, rest'⟩, hescape, h⟩ := bind_eq_ok.mp h
          obtain ⟨⟨ds, rest''⟩, hrest, h⟩ := bind_eq_ok.mp h
          obtain ⟨rfl, rfl⟩ := Prod.mk.inj (Except.ok.inj h)
          obtain ⟨escape, hd, rfl⟩ := readEscape_eq_ok.mp hescape
          obtain ⟨word, hword, hrest'⟩ := ih hrest
          refine ⟨'\\' :: (escape ++ word), .escape hd hword, ?_⟩
          rw [hbackslash, hrest', List.cons_append, List.append_assoc]
        · next hbackslash =>
          split at h
          · cases h
          · next hcontrol =>
            obtain ⟨⟨ds, rest'⟩, hrest, h⟩ := bind_eq_ok.mp h
            obtain ⟨rfl, rfl⟩ := Prod.mk.inj (Except.ok.inj h)
            obtain ⟨word, hword, rfl⟩ := ih hrest
            exact ⟨c :: word, .plain ⟨hquote, hbackslash, hcontrol⟩ hword, rfl⟩

theorem readChars_spells (h : Spells word cs) (r : List Char) (hfuel : word.length < fuel) :
    readChars fuel (word ++ '"' :: r) = .ok (cs, r) := by
  induction h generalizing fuel with
  | nil =>
    obtain ⟨fuel, rfl⟩ := Nat.exists_eq_add_one_of_ne_zero (Nat.ne_of_gt hfuel)
    rfl
  | plain h _ ih =>
    obtain ⟨fuel, rfl⟩ := Nat.exists_eq_add_one_of_ne_zero (Nat.ne_of_gt (Nat.zero_lt_of_lt hfuel))
    rw [List.length_cons] at hfuel
    exact readChars_plain h.not_quote h.not_backslash h.not_control
      (ih (Nat.lt_of_succ_lt_succ hfuel))
  | escape h _ ih =>
    obtain ⟨fuel, rfl⟩ := Nat.exists_eq_add_one_of_ne_zero (Nat.ne_of_gt (Nat.zero_lt_of_lt hfuel))
    rw [List.length_cons, List.length_append] at hfuel
    rw [List.cons_append, List.append_assoc]
    exact readChars_escape (readEscape_eq_ok.mpr ⟨_, h, rfl⟩) (ih (by omega))

theorem readStringBody_eq_ok {text : String} : readStringBody s = .ok (text, r) ↔
    ∃ word, Spells word text.toList ∧ s = word ++ '"' :: r := by
  constructor
  · intro h
    obtain ⟨⟨cs, rest⟩, hchars, h⟩ := bind_eq_ok.mp h
    obtain ⟨rfl, rfl⟩ := Prod.mk.inj (Except.ok.inj h)
    obtain ⟨word, hword, hs⟩ := exists_spells hchars
    exact ⟨word, by rwa [String.toList_ofList], hs⟩
  · rintro ⟨word, hword, rfl⟩
    have hfuel : word.length < (word ++ '"' :: r).length + 1 := by
      rw [List.length_append]
      omega
    refine bind_eq_ok.mpr ⟨_, readChars_spells hword r hfuel, ?_⟩
    dsimp only
    rw [String.ofList_toList]

/-! ## Strings that are passed -/

theorem exists_isRaw (h : skipChars fuel s = .ok r) :
    ∃ word, IsRaw word ∧ s = word ++ '"' :: r := by
  induction fuel generalizing s with
  | zero => cases h
  | succ fuel ih =>
    cases s with
    | nil => cases h
    | cons c rest =>
      rw [skipChars] at h
      split at h
      · next hquote =>
        obtain rfl := Except.ok.inj h
        exact ⟨[], .nil, by rw [hquote, List.nil_append]⟩
      · next hquote =>
        split at h
        · next hbackslash =>
          obtain ⟨rest', hescape, h⟩ := bind_eq_ok.mp h
          obtain ⟨word, hword, rfl⟩ := ih h
          cases rest with
          | nil => cases hescape
          | cons letter rest =>
            rw [skipEscape] at hescape
            split at hescape
            · next hu =>
              obtain ⟨⟨n, rest'⟩, hdigits, hrest⟩ := map_eq_ok.mp hescape
              obtain ⟨digits, hhex, rfl⟩ := readHex4_eq_ok.mp hdigits
              refine ⟨_, .unit hhex hword, ?_⟩
              dsimp only at hrest
              rw [hbackslash, hu, hrest, List.cons_append, List.cons_append, List.append_assoc]
            · split at hescape
              · next hletter =>
                obtain rfl := Except.ok.inj hescape
                exact ⟨_, .letter hletter hword, by rw [hbackslash]; rfl⟩
              · cases hescape
        · next hbackslash =>
          split at h
          · cases h
          · next hcontrol =>
            obtain ⟨word, hword, rfl⟩ := ih h
            exact ⟨c :: word, .plain ⟨hquote, hbackslash, hcontrol⟩ hword, rfl⟩

theorem skipChars_isRaw (h : IsRaw word) (r : List Char) (hfuel : word.length < fuel) :
    skipChars fuel (word ++ '"' :: r) = .ok r := by
  induction h generalizing fuel with
  | nil =>
    obtain ⟨fuel, rfl⟩ := Nat.exists_eq_add_one_of_ne_zero (Nat.ne_of_gt hfuel)
    rfl
  | plain h _ ih =>
    obtain ⟨fuel, rfl⟩ := Nat.exists_eq_add_one_of_ne_zero (Nat.ne_of_gt (Nat.zero_lt_of_lt hfuel))
    rw [List.length_cons] at hfuel
    rw [List.cons_append, skipChars, if_neg h.not_quote, if_neg h.not_backslash,
      if_neg h.not_control]
    exact ih (Nat.lt_of_succ_lt_succ hfuel)
  | @letter letter c word h _ ih =>
    obtain ⟨fuel, rfl⟩ := Nat.exists_eq_add_one_of_ne_zero (Nat.ne_of_gt (Nat.zero_lt_of_lt hfuel))
    rw [List.length_cons, List.length_cons] at hfuel
    have hu : letter ≠ 'u' := by
      rintro rfl
      cases h
    have hescape : skipEscape (letter :: (word ++ '"' :: r)) = .ok (word ++ '"' :: r) := by
      rw [skipEscape, if_neg hu, h]
    rw [List.cons_append, List.cons_append, skipChars, if_neg (by decide), if_pos rfl]
    exact bind_eq_ok.mpr ⟨_, hescape, ih (by omega)⟩
  | unit h _ ih =>
    obtain ⟨fuel, rfl⟩ := Nat.exists_eq_add_one_of_ne_zero (Nat.ne_of_gt (Nat.zero_lt_of_lt hfuel))
    rw [List.length_cons, List.length_cons, List.length_append] at hfuel
    rw [List.cons_append, List.cons_append, List.append_assoc, skipChars, if_neg (by decide),
      if_pos rfl]
    refine bind_eq_ok.mpr ⟨_, ?_, ih (by omega)⟩
    rw [skipEscape, if_pos rfl]
    exact map_eq_ok.mpr ⟨_, readHex4_eq_ok.mpr ⟨_, h, rfl⟩, rfl⟩

theorem skipString_eq_ok : skipString s = .ok r ↔ ∃ word, IsRaw word ∧ s = word ++ '"' :: r := by
  constructor
  · exact exists_isRaw
  · rintro ⟨word, hword, rfl⟩
    refine skipChars_isRaw hword r ?_
    rw [List.length_append]
    omega

end ServiceStubs.Json
