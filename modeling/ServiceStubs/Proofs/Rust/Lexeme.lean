import ServiceStubs.Proofs.Rust.Progress

/-!
# Lexemes

The tokens of a text leave out what a compiler passes over.  Here a text is cut without loss, into
blanks, comments and tokens, so that it can be said where something stands that is no token.  The
main result is that the tokens of a text are those of its lexemes.
-/

namespace ServiceStubs.Rust

/-- A piece of a source text. -/
inductive Lexeme where
  /-- A run of blanks. -/
  | gap (blanks : List Char)
  /-- A plain comment up to the end of its line. -/
  | line (content : List Char)
  /-- A plain comment between its delimiters. -/
  | block (content : List Char)
  /-- A doc comment up to the end of its line. -/
  | lineDoc (inner : Bool) (content : List Char)
  /-- A doc comment between its delimiters. -/
  | blockDoc (inner : Bool) (content : List Char)
  | token (t : Token)

namespace Lexeme

open ServiceStubs.Rust.Token (isGap isPlainLine isPlainBlock splitLine splitBlock docComment?
  hasNoBareReturn docTokens skipGaps scan)

/-- The tokens that a lexeme stands for. -/
def tokens : Lexeme → List Token
  | lineDoc inner content => docTokens inner content
  | blockDoc inner content => docTokens inner content
  | token t => [t]
  | _ => []

/-- The token that a lexeme is, if it is one.  Comments are none. -/
def code? : Lexeme → Option Token
  | token t => some t
  | _ => none

/-- Whether a lexeme is a comment between delimiters. -/
def isBlock : Lexeme → Bool
  | block _ => true
  | blockDoc _ _ => true
  | _ => false

/-! ## Cutting a text -/

/-- A doc comment with its content, told apart by the second of its characters. -/
def doc (s : List Char) (inner : Bool) (content : List Char) : Lexeme :=
  match s with
  | '/' :: '*' :: _ => blockDoc inner content
  | _ => lineDoc inner content

/-- The first lexeme of a text and what follows it. -/
def next? (s : List Char) : Option (Lexeme × List Char) :=
  match s with
  | [] => none
  | c :: r =>
    if isGap c then some (gap (c :: r.takeWhile isGap), r.dropWhile isGap)
    else match plain? s with
      | some found => some found
      | none =>
        match docComment? s with
        | some (inner, content, rest) =>
          if hasNoBareReturn content then some (doc s inner content, rest) else none
        | none => (Token.next? s).map fun (t, rest) => (token t, rest)
where
  /-- A plain comment at the start of a text. -/
  plain? : List Char → Option (Lexeme × List Char)
    | '/' :: '/' :: r =>
      if isPlainLine r then some (line (splitLine r).1, (splitLine r).2) else none
    | '/' :: '*' :: r =>
      if isPlainBlock r then (splitBlock 0 r).map fun (content, rest) => (block content, rest)
      else none
    | _ => none

/-- Cuts a text in at most so many rounds. -/
def cut : Nat → List Char → Option (List Lexeme)
  | 0, s => if s.isEmpty then some [] else none
  | fuel + 1, s =>
    if s.isEmpty then some []
    else match next? s with
      | some (l, rest) => (cut fuel rest).map (l :: ·)
      | none => none

end Lexeme

/-- The lexemes of a text. -/
def lexemes? (text : List Char) : Option (List Lexeme) :=
  Lexeme.cut text.length text

namespace Lexeme

open ServiceStubs.Rust.Token (isGap isPlainLine isPlainBlock splitLine splitBlock docComment?
  hasNoBareReturn docTokens skipGaps scan)

/-! ## Gaps -/

theorem skipGaps_cons (fuel : Nat) (c : Char) (s : List Char) :
    skipGaps (fuel + 1) (c :: s) =
      if isGap c then skipGaps fuel s
      else match c, s with
        | '/', '/' :: r => if isPlainLine r then skipGaps fuel (splitLine r).2 else c :: s
        | '/', '*' :: r =>
          if isPlainBlock r then
            match splitBlock 0 r with
            | some (_, rest) => skipGaps fuel rest
            | none => c :: s
          else c :: s
        | _, _ => c :: s := rfl

/-- Rounds beyond the length of a text pass nothing more. -/
theorem skipGaps_eq {fuel fuel' : Nat} {s : List Char} (h : s.length < fuel)
    (h' : s.length < fuel') : skipGaps fuel s = skipGaps fuel' s := by
  induction fuel generalizing s fuel' with
  | zero => omega
  | succ fuel ih =>
    obtain ⟨fuel', rfl⟩ := Nat.exists_eq_add_one_of_ne_zero (Nat.ne_of_gt (Nat.zero_lt_of_lt h'))
    cases s with
    | nil => rfl
    | cons c s =>
      simp only [List.length_cons] at h h'
      have hrest : ∀ t : List Char, t.length ≤ s.length → skipGaps fuel t = skipGaps fuel' t :=
        fun t ht => ih (by omega) (by omega)
      rw [skipGaps_cons, skipGaps_cons]
      split_ifs with hgap
      · exact hrest s (Nat.le_refl _)
      · split
        · next r =>
          have hline := Token.length_splitLine_le r
          split_ifs
          · exact hrest _ (by simp only [List.length_cons]; omega)
          · rfl
        · next r =>
          split_ifs
          · split
            · next rest hblock =>
              have hlength := Token.length_splitBlock hblock
              exact hrest _ (by simp only [List.length_cons]; omega)
            · rfl
          · rfl
        · rfl

/-- What is left of a text once blanks and plain comments are passed. -/
def afterGaps (s : List Char) : List Char := skipGaps (s.length + 1) s

theorem afterGaps_eq {fuel : Nat} {s : List Char} (h : s.length < fuel) :
    skipGaps fuel s = afterGaps s :=
  skipGaps_eq h (Nat.lt_succ_self _)

theorem afterGaps_cons_gap {c : Char} {s : List Char} (hc : isGap c = true) :
    afterGaps (c :: s) = afterGaps s := by
  rw [afterGaps, skipGaps_cons, if_pos hc]
  exact afterGaps_eq (by simp)

theorem afterGaps_dropWhile (s : List Char) : afterGaps (s.dropWhile isGap) = afterGaps s := by
  induction s with
  | nil => rfl
  | cons c s ih =>
    by_cases hc : isGap c = true
    · rw [List.dropWhile_cons_of_pos hc, ih, afterGaps_cons_gap hc]
    · rw [List.dropWhile_cons_of_neg hc]

theorem afterGaps_of_plain? {c : Char} {s rest : List Char} {l : Lexeme} (hc : isGap c = false)
    (h : next?.plain? (c :: s) = some (l, rest)) : afterGaps (c :: s) = afterGaps rest := by
  rw [afterGaps, skipGaps_cons, hc]
  unfold next?.plain? at h
  split at h
  · next r heq =>
    obtain ⟨rfl, rfl⟩ := List.cons.inj heq
    have hline := Token.length_splitLine_le r
    split_ifs at h with hplain
    obtain ⟨rfl, rfl⟩ := Prod.mk.inj (Option.some.inj h)
    simp only [hplain, if_true]
    exact afterGaps_eq (by simp only [List.length_cons]; omega)
  · next r heq =>
    obtain ⟨rfl, rfl⟩ := List.cons.inj heq
    split_ifs at h with hplain
    obtain ⟨content, hblock⟩ := exists_of_map_fst h
    have hlength := Token.length_splitBlock hblock
    simp only [hplain, hblock, if_true]
    exact afterGaps_eq (by simp only [List.length_cons]; omega)
  · cases h

theorem afterGaps_of_plain?_eq_none {c : Char} {s : List Char} (hc : isGap c = false)
    (h : next?.plain? (c :: s) = none) : afterGaps (c :: s) = c :: s := by
  rw [afterGaps, skipGaps_cons, hc, if_neg Bool.false_ne_true]
  split
  · next r =>
    simp only [next?.plain?] at h
    split_ifs at h with hplain
    rw [if_neg hplain]
  · next r =>
    simp only [next?.plain?] at h
    split_ifs at h with hplain
    · rw [if_pos hplain, Option.map_eq_none_iff.mp h]
    · rw [if_neg hplain]
  · rfl

/-! ## Scanning by lexemes -/

/-- What a scan gives with enough rounds for the text. -/
def Scans (s : List Char) (found : Option (List Token)) : Prop :=
  ∀ fuel, s.length < fuel → scan fuel s = found

theorem scan_succ (fuel : Nat) (s : List Char) :
    scan (fuel + 1) s =
      match afterGaps s with
      | [] => some []
      | s =>
        match docComment? s with
        | some (inner, content, rest) =>
          if hasNoBareReturn content then
            (scan fuel rest).map fun ts => docTokens inner content ++ ts
          else none
        | none =>
          match Token.next? s with
          | some (t, rest) => (scan fuel rest).map (t :: ·)
          | none => none := rfl

theorem Scans.nil : Scans [] (some []) := by
  intro fuel hfuel
  obtain ⟨fuel, rfl⟩ := Nat.exists_eq_add_one_of_ne_zero (Nat.ne_of_gt hfuel)
  rfl

/-- Only what follows the first blanks and plain comments is scanned. -/
theorem Scans.of_afterGaps_eq {s t : List Char} {found : Option (List Token)}
    (h : afterGaps s = afterGaps t) (hlength : t.length ≤ s.length) (ht : Scans t found) :
    Scans s found := by
  intro fuel hfuel
  have hscan := ht fuel (Nat.lt_of_le_of_lt hlength hfuel)
  obtain ⟨fuel, rfl⟩ := Nat.exists_eq_add_one_of_ne_zero (Nat.ne_of_gt (Nat.zero_lt_of_lt hfuel))
  rw [scan_succ] at hscan ⊢
  rw [h, hscan]

theorem length_plain? {s rest : List Char} {l : Lexeme} (h : next?.plain? s = some (l, rest)) :
    l.tokens = [] ∧ rest.length < s.length := by
  unfold next?.plain? at h
  split at h
  · next r =>
    have hline := Token.length_splitLine_le r
    split_ifs at h
    cases h
    exact ⟨rfl, by simp only [List.length_cons]; omega⟩
  · next r =>
    split_ifs at h
    obtain ⟨p, hblock, hp⟩ := Option.map_eq_some_iff.mp h
    have hlength := Token.length_splitBlock hblock
    cases hp
    exact ⟨rfl, by simp only [List.length_cons]; omega⟩
  · cases h

theorem next?_cons (c : Char) (s : List Char) :
    next? (c :: s) =
      if isGap c then some (gap (c :: s.takeWhile isGap), s.dropWhile isGap)
      else match next?.plain? (c :: s) with
        | some found => some found
        | none =>
          match docComment? (c :: s) with
          | some (inner, content, rest) =>
            if hasNoBareReturn content then some (doc (c :: s) inner content, rest) else none
          | none => (Token.next? (c :: s)).map fun (t, rest) => (token t, rest) := rfl

theorem tokens_doc (s : List Char) (inner : Bool) (content : List Char) :
    (doc s inner content).tokens = docTokens inner content := by
  unfold doc
  split <;> rfl

/-- A scan takes the tokens of the first lexeme and goes on with the rest. -/
theorem Scans.of_next? {s rest : List Char} {l : Lexeme} {found : Option (List Token)}
    (h : next? s = some (l, rest)) (hrest : Scans rest found) :
    Scans s (found.map (l.tokens ++ ·)) := by
  have hnone : ∀ {l : Lexeme}, l.tokens = [] → found.map (l.tokens ++ ·) = found := by
    intro l hl
    simp [hl]
  cases s with
  | nil => cases h
  | cons c s =>
    rw [next?_cons] at h
    split_ifs at h with hgap
    · cases h
      rw [hnone rfl]
      have hdrop := length_dropWhile_le isGap s
      refine hrest.of_afterGaps_eq ?_ (by simp only [List.length_cons]; omega)
      rw [afterGaps_cons_gap hgap, afterGaps_dropWhile]
    · have hgap : isGap c = false := by simpa using hgap
      split at h
      · next found' hplain =>
        cases h
        have hlength := length_plain? hplain
        rw [hnone hlength.1]
        exact hrest.of_afterGaps_eq (afterGaps_of_plain? hgap hplain) (Nat.le_of_lt hlength.2)
      · next hplain =>
        intro fuel hfuel
        obtain ⟨fuel, rfl⟩ :=
          Nat.exists_eq_add_one_of_ne_zero (Nat.ne_of_gt (Nat.zero_lt_of_lt hfuel))
        rw [scan_succ, afterGaps_of_plain?_eq_none hgap hplain]
        split at h
        · next inner content after hdoc =>
          have hlength := Token.length_docComment? hdoc
          split_ifs at h with hreturn
          cases h
          simp only [hdoc, hreturn, if_true, tokens_doc]
          rw [hrest fuel (by omega)]
        · next hdoc =>
          obtain ⟨⟨t, after⟩, hnext, heq⟩ := Option.map_eq_some_iff.mp h
          have hlength := Token.length_next? hnext
          cases heq
          simp only [hdoc, hnext]
          rw [hrest fuel (by omega)]
          rfl

/-- A text that does not start with a lexeme is refused. -/
theorem Scans.of_next?_eq_none {c : Char} {s : List Char} (h : next? (c :: s) = none) :
    Scans (c :: s) none := by
  intro fuel hfuel
  obtain ⟨fuel, rfl⟩ := Nat.exists_eq_add_one_of_ne_zero (Nat.ne_of_gt (Nat.zero_lt_of_lt hfuel))
  rw [next?_cons] at h
  split_ifs at h with hgap
  have hgap : isGap c = false := by simpa using hgap
  split at h
  · cases h
  · next hplain =>
    rw [scan_succ, afterGaps_of_plain?_eq_none hgap hplain]
    split at h
    · next inner content after hdoc =>
      split_ifs at h with hreturn
      simp only [hdoc, hreturn]
      rfl
    · next hdoc =>
      simp only [hdoc, Option.map_eq_none_iff.mp h]

theorem length_next? {s rest : List Char} {l : Lexeme} (h : next? s = some (l, rest)) :
    rest.length < s.length := by
  cases s with
  | nil => cases h
  | cons c s =>
    rw [next?_cons] at h
    split_ifs at h with hgap
    · cases h
      exact Nat.lt_succ_of_le (length_dropWhile_le isGap s)
    · split at h
      · next hplain =>
        cases h
        exact (length_plain? hplain).2
      · split at h
        · next hdoc =>
          split_ifs at h
          cases h
          exact Token.length_docComment? hdoc
        · obtain ⟨⟨t, after⟩, hnext, heq⟩ := Option.map_eq_some_iff.mp h
          cases heq
          exact Token.length_next? hnext

theorem scans_cut {fuel : Nat} {s : List Char} (hfuel : s.length ≤ fuel) :
    Scans s ((cut fuel s).map (·.flatMap tokens)) := by
  induction fuel generalizing s with
  | zero =>
    obtain rfl := List.length_eq_zero_iff.mp (Nat.le_zero.mp hfuel)
    exact .nil
  | succ fuel ih =>
    cases s with
    | nil => exact .nil
    | cons c s =>
      rw [cut, List.isEmpty_cons, if_neg Bool.false_ne_true]
      cases hnext : next? (c :: s) with
      | none => exact .of_next?_eq_none hnext
      | some found =>
        obtain ⟨l, rest⟩ := found
        have hlength := length_next? hnext
        have hrest := ih (s := rest) (by omega)
        have hscan := hrest.of_next? hnext
        simpa [Option.map_map, Function.comp_def] using hscan

end Lexeme

/-- The tokens of a text are those of its lexemes. -/
theorem tokens?_eq_lexemes? (text : List Char) :
    tokens? text = (lexemes? text).map (·.flatMap Lexeme.tokens) :=
  Lexeme.scans_cut (Nat.le_refl _) _ (Nat.lt_succ_self _)

end ServiceStubs.Rust
