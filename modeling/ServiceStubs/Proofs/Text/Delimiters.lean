import Mathlib.Data.List.SplitBy
import ServiceStubs.Proofs.Text.Embedded

/-!
# Spaces between comment delimiters

A text falls into stretches in which no two neighbours delimit a comment; the characters of a
delimiter stand on the two sides of a cut.  Escaping joins the stretches by single spaces.  So it puts
in as many spaces as there are delimiters, overlapping ones included, and none into a text without any.
-/

namespace ServiceStubs.Text.Comment

variable {s t : List Char} {a b : Char}

/-- The longest stretches of a text in which no two neighbours delimit a comment. -/
def stretches (s : List Char) : List (List Char) :=
  s.splitBy fun a b => !isDelimiterPair a b

/-- How many pairs of neighbours delimit a comment.  A character may belong to two of them. -/
def delimiterCount (s : List Char) : Nat :=
  (s.zip s.tail).countP fun (a, b) => isDelimiterPair a b

/-! ## Texts without delimiters -/

theorem IsApart.not_infix (h : IsApart s) (hpair : isDelimiterPair a b = true) :
    ¬ [a, b] <:+: s := by
  intro hinfix
  have hchain : IsApart [a, b] := List.IsChain.infix h hinfix
  have hfree := (List.isChain_cons_cons.mp hchain).1
  rw [hpair] at hfree
  cases hfree

theorem escapeBlock_eq_self {text : String} (hquote : '"' ∉ text.toList)
    (hapart : IsApart text.toList) : escapeBlock text = text := by
  have hsame : text.toList.map softenQuote = text.toList := by
    refine (List.map_congr_left fun c hc => ?_).trans (List.map_id _)
    have hne : c ≠ '"' := fun heq => hquote (heq ▸ hc)
    exact if_neg hne
  rw [escapeBlock, hsame, separate_eq_self hapart, String.ofList_toList]

/-! ## Stretches -/

theorem isApart_of_mem_stretches {part : List Char} (h : part ∈ stretches s) : IsApart part :=
  (List.isChain_of_mem_splitBy h).imp fun _ _ hpair => by simpa using hpair

/-- Two stretches meet in a delimiter. -/
theorem isChain_stretches (s : List Char) :
    (stretches s).IsChain fun part next =>
      ∃ a ∈ part.getLast?, ∃ b ∈ next.head?, isDelimiterPair a b = true := by
  refine (List.isChain_getLast_head_splitBy _ s).imp fun part next => ?_
  rintro ⟨hpart, hnext, hpair⟩
  exact ⟨part.getLast hpart, List.getLast_mem_getLast? hpart, next.head hnext,
    List.head_mem_head? hnext, by simpa using hpair⟩

/-- A space is put where a delimiter would come about. -/
theorem separate_append (ha : a ∈ s.getLast?) (hb : b ∈ t.head?)
    (hpair : isDelimiterPair a b = true) :
    separate (s ++ t) = separate s ++ ' ' :: separate t := by
  obtain ⟨t, rfl⟩ := List.head?_eq_some_iff.mp hb
  induction s using separate.induct with
  | case1 => simp at ha
  | case2 c =>
    obtain rfl : c = a := by simpa using ha
    simp [separate, hpair]
  | case3 c d rest hdelimits ih =>
    have hrest := ih (by simpa using ha)
    simp only [List.cons_append] at hrest ⊢
    simp [separate, hdelimits, hrest]
  | case4 c d rest hdelimits ih =>
    have hrest := ih (by simpa using ha)
    simp only [List.cons_append] at hrest ⊢
    simp [separate, hdelimits, hrest]

/-- By induction on the stretches, whose seams are the only places for a space. -/
theorem separate_flatten {parts : List (List Char)} (hparts : ∀ part ∈ parts, IsApart part)
    (hseams : parts.IsChain fun part next =>
      ∃ a ∈ part.getLast?, ∃ b ∈ next.head?, isDelimiterPair a b = true) :
    separate parts.flatten = [' '].intercalate parts := by
  induction parts with
  | nil => rfl
  | cons part parts ih =>
    obtain ⟨hpart, hparts⟩ := List.forall_mem_cons.mp hparts
    cases parts with
    | nil => simp [separate_eq_self hpart]
    | cons next parts =>
      obtain ⟨⟨a, ha, b, hb, hpair⟩, hseams⟩ := List.isChain_cons_cons.mp hseams
      have hhead : b ∈ (next :: parts).flatten.head? := by
        obtain ⟨rest, rfl⟩ := List.head?_eq_some_iff.mp hb
        rfl
      rw [List.flatten_cons, separate_append ha hhead hpair, separate_eq_self hpart,
        ih hparts hseams, List.intercalate_cons_cons, List.append_assoc, List.singleton_append]

theorem separate_eq (s : List Char) : separate s = [' '].intercalate (stretches s) := by
  have hjoined := separate_flatten (fun _ => isApart_of_mem_stretches) (isChain_stretches s)
  rwa [stretches, List.flatten_splitBy, ← stretches] at hjoined

/-! ## How many spaces -/

theorem delimiterCount_cons_cons (a b : Char) (rest : List Char) :
    delimiterCount (a :: b :: rest) =
      delimiterCount (b :: rest) + if isDelimiterPair a b then 1 else 0 := by
  simp [delimiterCount, List.countP_cons]

theorem length_separate (s : List Char) : (separate s).length = s.length + delimiterCount s := by
  induction s using separate.induct with
  | case1 => rfl
  | case2 a => rfl
  | case3 a b rest hpair ih =>
    rw [separate, if_pos hpair, delimiterCount_cons_cons, if_pos hpair]
    simp only [List.length_cons] at ih ⊢
    omega
  | case4 a b rest hpair ih =>
    rw [separate, if_neg hpair, delimiterCount_cons_cons, if_neg hpair]
    simp only [List.length_cons] at ih ⊢
    omega

/-- Quotes and apostrophes belong to no delimiter. -/
theorem isDelimiterPair_softenQuote (a b : Char) :
    isDelimiterPair (softenQuote a) (softenQuote b) = isDelimiterPair a b := by
  have hstar (c : Char) : softenQuote c = '*' ↔ c = '*' := by
    rw [softenQuote]
    split_ifs with hquote <;> simp [hquote]
  have hslash (c : Char) : softenQuote c = '/' ↔ c = '/' := by
    rw [softenQuote]
    split_ifs with hquote <;> simp [hquote]
  simp only [isDelimiterPair, hstar, hslash]

theorem delimiterCount_map_softenQuote (s : List Char) :
    delimiterCount (s.map softenQuote) = delimiterCount s := by
  simp only [delimiterCount, ← List.map_tail, List.zip_map, List.countP_map, Function.comp_def,
    Prod.map, isDelimiterPair_softenQuote]

/-- An escaped text holds no double quote and neither delimiter.  It is the text with softened quotes
and one space between two stretches: the stretches make up that text, none of them holds a delimiter,
and every two of them meet in one.  So it is longer by the number of delimiters.  Escaping a second
time changes nothing. -/
theorem escapeBlock_spaces_delimiters (text : String) :
    let softened := text.toList.map fun c => if c = '"' then '\'' else c
    let escaped := (escapeBlock text).toList
    '"' ∉ escaped ∧ ¬ "*/".toList <:+: escaped ∧ ¬ "/*".toList <:+: escaped ∧
    escaped = [' '].intercalate (stretches softened) ∧
    (stretches softened).flatten = softened ∧
    (∀ part ∈ stretches softened, IsApart part) ∧
    ((stretches softened).IsChain fun part next =>
      ∃ a ∈ part.getLast?, ∃ b ∈ next.head?, isDelimiterPair a b = true) ∧
    escaped.length = text.toList.length + delimiterCount text.toList ∧
    escapeBlock (escapeBlock text) = escapeBlock text := by
  intro softened escaped
  have hescaped : escaped = separate softened := String.toList_ofList
  have hapart : IsApart escaped := isApart_escapeBlock text
  have hquote : '"' ∉ escaped := quote_not_mem_escapeBlock text
  refine ⟨hquote, hapart.not_infix (by decide), hapart.not_infix (by decide), ?_,
    List.flatten_splitBy _ _, fun _ => isApart_of_mem_stretches, isChain_stretches softened, ?_,
    escapeBlock_eq_self hquote hapart⟩
  · rw [hescaped, separate_eq]
  · have hcount : delimiterCount softened = delimiterCount text.toList :=
      delimiterCount_map_softenQuote text.toList
    rw [hescaped, length_separate, hcount, List.length_map]

/-- One character may end a delimiter and start the next. -/
example : escapeBlock "/*/ \"**//\"" = "/ * / '** //'" := by decide

end ServiceStubs.Text.Comment
