import ServiceStubs.Proofs.Rust.Spelling

/-!
# Layouts

A text that is put together from pieces is cut piece by piece.  Each rule here says how one kind of
piece is cut, whatever it holds, when what follows keeps apart from it.  A piece that is known as a
whole is cut by computation.
-/

namespace ServiceStubs.Rust

namespace Lexeme

open ServiceStubs.Rust.Token (isGap isPlainLine splitLine hasNoBareReturn)
open ServiceStubs.Naming (isIdentifierStart)
open ServiceStubs.Text (isControl)
open ServiceStubs.Text.Comment (IsLine)
open ServiceStubs.Text.Identifier (isStart)

variable {s t u rest content : List Char} {l : Lexeme} {ls ms : List Lexeme}

/-! ## Names for lexemes -/

/-- An identifier. -/
def word (w : String) : Lexeme := token (.leaf (.ident w))

/-- A punctuation character. -/
def sign (c : Char) (joined : Bool) : Lexeme := token (.leaf (.punct c joined))

/-- A lifetime. -/
def lifetime (name : String) : Lexeme := token (.leaf (.lifetime name))

/-- A string literal with the given value. -/
def quoted (v : String) : Lexeme := token (.leaf (.literal (Text.quoted v)))

/-- An opening bracket. -/
def opening (d : Delimiter) : Lexeme := token (.opening d)

/-- A closing bracket. -/
def closing (d : Delimiter) : Lexeme := token (.closing d)

/-- Blanks. -/
def space (blanks : String) : Lexeme := gap blanks.toList

/-! ## Cutting a beginning -/

/-- The lexemes at the beginning of a text, with what follows them. -/
inductive Cuts : List Char → List Lexeme → List Char → Prop
  | nil (s : List Char) : Cuts s [] s
  | cons {s t u : List Char} {l : Lexeme} {ls : List Lexeme} (h : next? s = some (l, t))
      (hrest : Cuts t ls u) : Cuts s (l :: ls) u

theorem Cuts.append (h : Cuts s ls t) (h' : Cuts t ms u) : Cuts s (ls ++ ms) u := by
  induction h with
  | nil => exact h'
  | cons h _ ih => exact .cons h (ih h')

theorem Cuts.single (h : next? s = some (l, t)) : Cuts s [l] t :=
  .cons h (.nil t)

/-- The rounds that a cut takes need no more than the length of the text. -/
theorem Cuts.cut_eq (h : Cuts s ls []) {fuel : Nat} (hfuel : s.length ≤ fuel) :
    cut fuel s = some ls := by
  generalize hend : ([] : List Char) = e at h
  induction h generalizing fuel with
  | nil s =>
    subst hend
    cases fuel <;> rfl
  | @cons s t u l ls hnext _ ih =>
    have hlength := length_next? hnext
    cases fuel with
    | zero => omega
    | succ fuel =>
      have hs : s.isEmpty = false := by
        cases s with
        | nil => cases hnext
        | cons c s => rfl
      rw [cut, hs, hnext]
      have hrest : cut fuel t = some ls := ih (by omega) hend
      simp [hrest]

/-- A text that is cut up to its end has just these lexemes. -/
theorem Cuts.lexemes?_eq (h : Cuts s ls []) : lexemes? s = some ls :=
  h.cut_eq (Nat.le_refl _)

/-- Cuts off so many lexemes. -/
def cutOff : Nat → List Char → Option (List Lexeme × List Char)
  | 0, s => some ([], s)
  | n + 1, s =>
    match next? s with
    | some (l, t) => (cutOff n t).map fun (ls, u) => (l :: ls, u)
    | none => none

theorem Cuts.of_cutOff (h : cutOff ls.length s = some (ls, u)) : Cuts s ls u := by
  induction ls generalizing s with
  | nil =>
    cases h
    exact .nil _
  | cons l ls ih =>
    rw [List.length_cons, cutOff] at h
    split at h
    · next k t hnext =>
      obtain ⟨⟨ks, v⟩, hcut, heq⟩ := Option.map_eq_some_iff.mp h
      cases heq
      exact .cons hnext (ih hcut)
    · cases h

/-! ## Blanks, words and literals -/

theorem cuts_gap {blanks : List Char} (hne : blanks ≠ []) (hgap : blanks.all isGap = true)
    (hrest : ∀ c ∈ rest.head?, isGap c = false) : Cuts (blanks ++ rest) [gap blanks] rest := by
  cases blanks with
  | nil => exact absurd rfl hne
  | cons c blanks =>
    simp only [List.all_cons, Bool.and_eq_true] at hgap
    have hblanks : ∀ d ∈ blanks, isGap d = true := fun d hd => List.all_eq_true.mp hgap.2 d hd
    have hstop : rest.takeWhile isGap = [] ∧ rest.dropWhile isGap = rest := by
      cases rest with
      | nil => exact ⟨rfl, rfl⟩
      | cons d rest => simp [hrest d rfl]
    apply Cuts.single
    rw [List.cons_append, next?_cons, if_pos hgap.1, List.takeWhile_append_of_pos hblanks,
      List.dropWhile_append_of_pos hblanks, hstop.1, hstop.2, List.append_nil]

/-- What starts neither with a blank nor with a slash is a token. -/
theorem next?_of_token {c : Char} {k : Token} (hgap : isGap c = false) (hslash : c ≠ '/')
    (h : Token.next? (c :: s) = some (k, t)) : next? (c :: s) = some (token k, t) := by
  have hplain : next?.plain? (c :: s) = none := by
    unfold next?.plain?
    split
    · next heq => exact absurd (List.cons.inj heq).1 hslash
    · next heq => exact absurd (List.cons.inj heq).1 hslash
    · rfl
  have hdoc : Token.docComment? (c :: s) = none := by
    unfold Token.docComment?
    split
    · next heq => exact absurd (List.cons.inj heq).1 hslash
    · next heq => exact absurd (List.cons.inj heq).1 hslash
    · next heq => exact absurd (List.cons.inj heq).1 hslash
    · next heq => exact absurd (List.cons.inj heq).1 hslash
    · rfl
  rw [next?_cons, hgap, hplain, hdoc, h]
  rfl

theorem isGap_eq_false_of_isIdentifierStart {c : Char} (h : isIdentifierStart c = true) :
    isGap c = false := by
  have hletter := toNat_of_isIdentifierStart h
  have hmarks : c ≠ '\u200e' ∧ c ≠ '\u200f' := by
    constructor <;> rintro rfl <;> exact absurd hletter.2 (by decide)
  have hblank : Text.isBlank c = false := by
    simp only [Text.isBlank, Bool.or_eq_false_iff, Bool.and_eq_false_iff, decide_eq_false_iff_not,
      beq_eq_false_iff_ne]
    omega
  simp [isGap, hblank, hmarks]

theorem cuts_word {w : String} (hw : isWord w.toList = true) (hrest : endsWord rest = true) :
    Cuts (w.toList ++ rest) [word w] rest := by
  have hnext := Token.next?_word hw hrest
  rw [String.ofList_toList] at hnext
  cases hs : w.toList with
  | nil =>
    rw [hs] at hw
    cases hw
  | cons c s =>
    rw [hs] at hw hnext
    have hc : isIdentifierStart c = true := by simp_all [isWord]
    have hslash : c ≠ '/' := by
      rintro rfl
      exact absurd hc (by decide)
    exact .single (next?_of_token (isGap_eq_false_of_isIdentifierStart hc) hslash hnext)

/-- Blanks and a word after them. -/
theorem cuts_space_word (blanks : String) {w : String} (hne : blanks.toList ≠ [])
    (hgap : blanks.toList.all isGap = true) (hw : isWord w.toList = true)
    (hrest : endsWord rest = true) :
    Cuts (blanks.toList ++ (w.toList ++ rest)) [space blanks, word w] rest := by
  refine (cuts_gap hne hgap ?_).append (cuts_word hw hrest)
  intro c hc
  cases hs : w.toList with
  | nil =>
    rw [hs] at hw
    cases hw
  | cons d s =>
    rw [hs] at hw hc
    obtain rfl : d = c := by simpa using hc
    exact isGap_eq_false_of_isIdentifierStart (by simp_all [isWord])

theorem cuts_quoted (v : String) (hrest : rest.head?.any isStart = false) :
    Cuts ((Text.quoted v).toList ++ rest) [quoted v] rest := by
  have hpass := Literal.pass?_encode v.toList hrest
  have htake : (Text.Quoted.encode v.toList ++ rest).take
      ((Text.Quoted.encode v.toList ++ rest).length - rest.length) =
        Text.Quoted.encode v.toList := by
    simp
  have hquote : Token.bracket? '"' = none := rfl
  have hnext : Token.next? (Text.Quoted.encode v.toList ++ rest) =
      some (.leaf (.literal (Text.quoted v)), rest) := by
    rw [Text.quoted]
    simp only [Text.Quoted.encode, List.cons_append] at hpass htake ⊢
    simp only [Token.next?, hquote, hpass, htake]
  rw [Text.quoted, String.toList_ofList]
  exact .single (next?_of_token rfl (by decide) hnext)

theorem exists_quoted_eq (v : String) : ∃ s, (Text.quoted v).toList = '"' :: s :=
  ⟨_, String.toList_ofList⟩

/-! ## Comments -/

theorem splitLine_of_isLine (h : IsLine content) :
    splitLine (content ++ '\n' :: rest) = (content, '\n' :: rest) := by
  induction content with
  | nil => rfl
  | cons c content ih =>
    have hc : isControl c = false := h c List.mem_cons_self
    have hfeed : c ≠ '\n' := by
      rintro rfl
      exact absurd hc (by decide)
    have hreturn : c ≠ '\r' := by
      rintro rfl
      exact absurd hc (by decide)
    have hrest := ih fun d hd => h d (List.mem_cons_of_mem c hd)
    rw [List.cons_append, splitLine, hrest]
    · exact hfeed
    · exact fun _ h _ => hreturn h

theorem hasNoBareReturn_of_isLine (h : IsLine content) : hasNoBareReturn content = true := by
  induction content with
  | nil => rfl
  | cons c content ih =>
    have hc : isControl c = false := h c List.mem_cons_self
    have hreturn : c ≠ '\r' := by
      rintro rfl
      exact absurd hc (by decide)
    have hrest := ih fun d hd => h d (List.mem_cons_of_mem c hd)
    simp [hasNoBareReturn, hreturn, hrest]

/-- A plain comment takes the rest of its line. -/
theorem cuts_line (hline : IsLine content) (hplain : isPlainLine (content ++ '\n' :: rest) = true) :
    Cuts ('/' :: '/' :: content ++ '\n' :: rest) [line content] ('\n' :: rest) := by
  have hplain? : next?.plain? ('/' :: '/' :: (content ++ '\n' :: rest)) =
      some (line content, '\n' :: rest) := by
    rw [next?.plain?, if_pos hplain, splitLine_of_isLine hline]
  apply Cuts.single
  simp only [List.cons_append]
  rw [next?_cons, hplain?]
  rfl

/-- A doc comment takes the rest of its line. -/
theorem cuts_lineDoc (hline : IsLine content) (hstart : '/' ∉ content.head?) :
    Cuts ('/' :: '/' :: '/' :: content ++ '\n' :: rest) [lineDoc false content]
      ('\n' :: rest) := by
  have hhead : ∀ r, content ++ '\n' :: rest ≠ '/' :: r := by
    intro r hr
    cases content with
    | nil => simp at hr
    | cons c content =>
      obtain ⟨rfl, -⟩ := List.cons.inj hr
      exact hstart rfl
  have hdoc : Token.docComment? ('/' :: '/' :: '/' :: (content ++ '\n' :: rest)) =
      some (false, content, '\n' :: rest) := by
    rw [Token.docComment?, splitLine_of_isLine hline]
    exact hhead
  have hplain? : next?.plain? ('/' :: '/' :: '/' :: (content ++ '\n' :: rest)) = none := by
    have hisPlain : isPlainLine ('/' :: (content ++ '\n' :: rest)) = false := by
      unfold isPlainLine
      split
      · next heq => exact absurd (List.cons.inj heq).2 (hhead _)
      · rfl
      · rfl
      · next hslash _ => exact absurd rfl (hslash _)
    rw [next?.plain?, hisPlain]
    rfl
  apply Cuts.single
  simp only [List.cons_append]
  rw [next?_cons, hplain?, hdoc]
  simp only [hasNoBareReturn_of_isLine hline]
  rfl

/-! ## Repeated pieces -/

/-- Pieces that each start a line, up to one more line. -/
theorem cuts_flatMap {α : Type} {f : α → List Char} {g : α → List Lexeme} {as : List α}
    (hstart : ∀ a ∈ as, ∃ s, f a = '\n' :: s)
    (h : ∀ a ∈ as, ∀ t, Cuts (f a ++ '\n' :: t) (g a) ('\n' :: t)) (rest : List Char) :
    Cuts (as.flatMap f ++ '\n' :: rest) (as.flatMap g) ('\n' :: rest) := by
  induction as with
  | nil => exact .nil _
  | cons a as ih =>
    obtain ⟨hstarta, hstart⟩ := List.forall_mem_cons.mp hstart
    obtain ⟨ha, has⟩ := List.forall_mem_cons.mp h
    have hrest := ih hstart has
    obtain ⟨t, ht⟩ : ∃ t, as.flatMap f ++ '\n' :: rest = '\n' :: t := by
      cases as with
      | nil => exact ⟨rest, rfl⟩
      | cons b as =>
        obtain ⟨s, hs⟩ := hstart b List.mem_cons_self
        exact ⟨s ++ as.flatMap f ++ '\n' :: rest, by simp [hs]⟩
    rw [List.flatMap_cons, List.flatMap_cons, List.append_assoc]
    rw [ht] at hrest ⊢
    exact (ha t).append hrest

end Lexeme

end ServiceStubs.Rust
