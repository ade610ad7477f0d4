import ServiceStubs.Proofs.Rust.Spelling
import ServiceStubs.Rust.Words

/-!
# Names of generated code

The handler name of an operation is a word of ASCII characters and no reserved word, and it stays
so when a number is written after it.
-/

namespace ServiceStubs.Naming

open ServiceStubs.Rust (isWord isName reservedWords toNat_lt_of_isIdentifierPart
  forall_isIdentifierPart isIdentifierPart_of_isIdentifierStart)
open ServiceStubs.Text.Letter (isUppercase isLowercase isAlphanumeric lowercase)

/-! ## Characters of identifiers -/

/-- A list of characters of ASCII identifiers. -/
def IsPlain (s : List Char) : Prop := ∀ c ∈ s, isIdentifierPart c = true

instance (s : List Char) : Decidable (IsPlain s) := List.decidableBAll _ s

theorem isPlain_cons {c : Char} {s : List Char} :
    IsPlain (c :: s) ↔ isIdentifierPart c = true ∧ IsPlain s :=
  List.forall_mem_cons

theorem isPlain_append {s t : List Char} : IsPlain (s ++ t) ↔ IsPlain s ∧ IsPlain t :=
  List.forall_mem_append

theorem isWord_of_isIdentifier {name : String} (h : isIdentifier name = true) :
    isWord name.toList = true := by
  unfold isIdentifier at h
  split at h
  · cases h
  · cases h
  · next c rest _ hlist =>
    rw [hlist]
    exact h

theorem isPlain_of_isWord {w : List Char} (h : isWord w = true) : IsPlain w := by
  cases w with
  | nil => cases h
  | cons c w =>
    simp only [isWord, Bool.and_eq_true, List.all_eq_true] at h
    exact isPlain_cons.mpr ⟨isIdentifierPart_of_isIdentifierStart h.1, h.2⟩

theorem isWord_append {w t : List Char} (hw : isWord w = true) (ht : IsPlain t) :
    isWord (w ++ t) = true := by
  cases w with
  | nil => cases hw
  | cons c w =>
    simp only [isWord, Bool.and_eq_true, List.all_eq_true, List.cons_append] at hw ⊢
    exact ⟨hw.1, isPlain_append.mpr ⟨hw.2, ht⟩⟩

theorem isIdentifierPart_toLower {c : Char} (h : isIdentifierPart c = true) :
    isIdentifierPart c.toLower = true :=
  forall_isIdentifierPart (p := fun c => isIdentifierPart c.toLower = true) (by decide) h

theorem isIdentifierStart_of_isDigit_eq_false {c : Char} (h : isIdentifierPart c = true)
    (hdigit : c.isDigit = false) : isIdentifierStart c = true := by
  simp only [isIdentifierPart, isIdentifierStart, Char.isAlphanum, hdigit, Bool.or_false] at h ⊢
  exact h

/-! ## Snake case -/

/-- What a step does.  An underscore comes from a capital behind a small letter or digit, or from a
separator behind anything but an underscore. -/
inductive Snake.Moves (s : Snake) (c : Char) : Snake → Prop where
  | word (hupper : isUppercase c = true) (hmark : s.afterSmall = true) :
      Moves s c ⟨(lowercase c).reverse ++ '_' :: s.written, false⟩
  | capital (hupper : isUppercase c = true) (hmark : s.afterSmall = false) :
      Moves s c ⟨(lowercase c).reverse ++ s.written, false⟩
  | letter (hupper : isUppercase c = false) (hletter : isAlphanumeric c = true) :
      Moves s c ⟨c :: s.written, isLowercase c || c.isDigit⟩
  | separator {d : Char} {rest : List Char} (hupper : isUppercase c = false)
      (hletter : isAlphanumeric c = false) (hwritten : s.written = d :: rest) (hd : d ≠ '_') :
      Moves s c ⟨'_' :: s.written, false⟩
  | nothing {mark : Bool} (hupper : isUppercase c = false) (hletter : isAlphanumeric c = false)
      (hmark : mark = true → s.afterSmall = true) : Moves s c ⟨s.written, mark⟩

theorem Snake.moves_step (s : Snake) (c : Char) : s.Moves c (s.step c) := by
  rw [Snake.step]
  split_ifs with hupper hmark hletter hseparator
  · exact .word hupper hmark
  · exact .capital hupper (by simpa using hmark)
  · exact .letter (by simpa using hupper) hletter
  · rw [Bool.not_eq_true] at hupper hletter
    split
    · next hwritten => exact hwritten ▸ .nothing hupper hletter nofun
    · next d rest hwritten =>
      rw [← hwritten]
      split_ifs with hd
      · exact .nothing hupper hletter nofun
      · exact .separator hupper hletter hwritten (by simpa using hd)
  · rw [Bool.not_eq_true] at hupper hletter
    exact .nothing hupper hletter id

theorem isPlain_of_moves {s next : Snake} {c : Char} (h : s.Moves c next) (hs : IsPlain s.written)
    (hc : isIdentifierPart c = true) : IsPlain next.written := by
  have hunderscore : isIdentifierPart '_' = true := by decide
  have hlower : (lowercase c).reverse = [c.toLower] := by
    rw [lowercase, if_pos (toNat_lt_of_isIdentifierPart hc), List.reverse_singleton]
  cases h with
  | word =>
    rw [hlower]
    exact isPlain_cons.mpr ⟨isIdentifierPart_toLower hc, isPlain_cons.mpr ⟨hunderscore, hs⟩⟩
  | capital =>
    rw [hlower]
    exact isPlain_cons.mpr ⟨isIdentifierPart_toLower hc, hs⟩
  | letter => exact isPlain_cons.mpr ⟨hc, hs⟩
  | separator => exact isPlain_cons.mpr ⟨hunderscore, hs⟩
  | nothing => exact hs

theorem isPlain_foldl_step {name : List Char} {s : Snake} (hname : IsPlain name)
    (hs : IsPlain s.written) : IsPlain (name.foldl Snake.step s).written := by
  induction name generalizing s with
  | nil => exact hs
  | cons c name ih =>
    obtain ⟨hc, hname⟩ := isPlain_cons.mp hname
    exact ih hname (isPlain_of_moves (s.moves_step c) hs hc)

theorem isPlain_snakeCase {name : String} (h : IsPlain name.toList) :
    IsPlain (snakeCase name).toList := by
  have hwritten := isPlain_foldl_step (s := ⟨[], false⟩) h (by simp [IsPlain])
  intro c hc
  rw [snakeCase, String.toList_ofList, Snake.finish] at hc
  have hreverse := (List.dropWhile_sublist _).subset hc
  exact hwritten c ((List.dropWhile_sublist _).subset (List.mem_reverse.mp hreverse))

theorem head?_dropWhile_underscore (s : List Char) : '_' ∉ (s.dropWhile (· == '_')).head? := by
  intro h
  have hdrop := List.head?_dropWhile_not (· == '_') s
  rw [Option.mem_def.mp h] at hdrop
  simp at hdrop

/-- No underscore stays at the beginning of a snake-case form. -/
theorem head?_snakeCase (name : String) : '_' ∉ (snakeCase name).toList.head? := by
  rw [snakeCase, String.toList_ofList, Snake.finish]
  exact head?_dropWhile_underscore _

/-! ## Handler names -/

/-- A handler name is led by a mark, or is a snake-case form that starts no number, and then
keywords are closed by an underscore. -/
theorem handlerName_cases (operation : String) :
    handlerName operation = "op_" ++ snakeCase operation ∨
      ∃ c rest, (snakeCase operation).toList = c :: rest ∧ c.isDigit = false ∧
        (handlerName operation = snakeCase operation ++ "_" ∨
          isKeyword (snakeCase operation) = false ∧
            handlerName operation = snakeCase operation) := by
  unfold handlerName
  dsimp only
  split
  · exact .inl rfl
  · next c rest hlist =>
    split_ifs with hdigit hkeyword
    · exact .inl rfl
    · exact .inr ⟨c, rest, hlist, by simpa using hdigit, .inl rfl⟩
    · exact .inr ⟨c, rest, hlist, by simpa using hdigit, .inr ⟨by simpa using hkeyword, rfl⟩⟩

theorem isWord_handlerName {operation : String} (h : IsPlain operation.toList) :
    isWord (handlerName operation).toList = true := by
  have hsnake := isPlain_snakeCase h
  have hmark : isWord "op_".toList = true := by decide
  have hunderscore : IsPlain "_".toList := by decide
  rcases handlerName_cases operation with heq | ⟨c, rest, hlist, hdigit, hrest⟩
  · rw [heq, String.toList_append]
    exact isWord_append hmark hsnake
  · have hword : isWord (snakeCase operation).toList = true := by
      rw [hlist] at hsnake ⊢
      obtain ⟨hc, hplain⟩ := isPlain_cons.mp hsnake
      simp only [isWord, Bool.and_eq_true, List.all_eq_true]
      exact ⟨isIdentifierStart_of_isDigit_eq_false hc hdigit, hplain⟩
    rcases hrest with heq | ⟨-, heq⟩
    · rw [heq, String.toList_append]
      exact isWord_append hword hunderscore
    · rw [heq]
      exact hword

/-- The texts that can name no handler. -/
def unfit : List String := "" :: "_" :: keywords

/-- A text with what no unfit one has is fit. -/
theorem not_mem_unfit_of_forall {p : String → Bool} {w : String}
    (hunfit : ∀ v ∈ unfit, p v = false) (hw : p w = true) : w ∉ unfit := by
  intro hmem
  rw [hunfit w hmem] at hw
  cases hw

/-- The words that are reserved are keywords, except for the underscore. -/
theorem isName_of_not_mem_unfit {w : String} (h : w ∉ unfit) : isName w = true := by
  have hreserved : ∀ v ∈ "" :: reservedWords, v ∈ unfit := by decide
  have hmem : w ∉ "" :: reservedWords := fun hmem => h (hreserved w hmem)
  simpa [isName] using hmem

/-- Nothing unfit is led by the mark, and no keyword ends in an underscore. -/
theorem handlerName_not_mem_unfit (operation : String) : handlerName operation ∉ unfit := by
  have hhead := head?_snakeCase operation
  rcases handlerName_cases operation with heq | ⟨c, rest, hlist, -, heq | ⟨hkeyword, heq⟩⟩
  · refine not_mem_unfit_of_forall (p := fun v => "op_".toList.isPrefixOf v.toList) (by decide) ?_
    rw [heq, String.toList_append]
    exact List.isPrefixOf_iff_prefix.mpr (List.prefix_append _ _)
  · refine not_mem_unfit_of_forall
      (p := fun v => v.toList.getLast? == some '_' && v.toList.length != 1) (by decide) ?_
    have hlast : (c :: rest ++ ['_']).getLast? = some '_' := List.getLast?_concat
    have hlength : (c :: rest ++ ['_']).length ≠ 1 := by simp
    have hlist : (handlerName operation).toList = c :: rest ++ ['_'] := by
      rw [heq, String.toList_append, hlist]
      rfl
    rw [hlist, hlast, Bool.and_eq_true]
    exact ⟨rfl, bne_iff_ne.mpr hlength⟩
  · rw [heq, unfit, List.mem_cons, List.mem_cons]
    rintro (hempty | hunderscore | hmem)
    · rw [hempty] at hlist
      cases hlist
    · rw [hunderscore] at hhead
      exact hhead rfl
    · rw [isKeyword, List.contains_iff_mem.mpr hmem] at hkeyword
      cases hkeyword

/-- Nothing unfit ends in a digit. -/
theorem not_mem_unfit_of_digit {w : String} {c : Char} (hlast : w.toList.getLast? = some c)
    (hc : c.isDigit = true) : w ∉ unfit := by
  refine not_mem_unfit_of_forall (p := fun v => (v.toList.getLast?.map Char.isDigit).getD false)
    (by decide) ?_
  simp [hlast, hc]

/-! ## Pieces -/

section Pieces

variable {α : Type} {isSeparator : α → Bool} {piece : List α}

variable (isSeparator) in
theorem splitAtAny_ne_nil (s : List α) : splitAtAny isSeparator s ≠ [] := by
  cases s with
  | nil => exact List.cons_ne_nil _ _
  | cons c s =>
    rw [splitAtAny]
    split
    · split_ifs <;> exact List.cons_ne_nil _ _
    · exact List.cons_ne_nil _ _

variable (isSeparator) in
/-- A separator starts a new piece, any other character lengthens the first one. -/
theorem exists_splitAtAny_cons (c : α) (s : List α) :
    ∃ first pieces, splitAtAny isSeparator s = first :: pieces ∧
      splitAtAny isSeparator (c :: s) =
        if isSeparator c then [] :: first :: pieces else (c :: first) :: pieces := by
  obtain ⟨first, pieces, hs⟩ := List.exists_cons_of_ne_nil (splitAtAny_ne_nil isSeparator s)
  refine ⟨first, pieces, hs, ?_⟩
  rw [splitAtAny, hs]

theorem splitAtAny_of_piece (h : ∀ c ∈ piece, isSeparator c = false) :
    splitAtAny isSeparator piece = [piece] := by
  induction piece with
  | nil => rfl
  | cons c piece ih =>
    obtain ⟨hc, hpiece⟩ := List.forall_mem_cons.mp h
    simp only [splitAtAny, ih hpiece, hc, Bool.false_eq_true, if_false]

/-- A separator divides the pieces in front of it from those behind it. -/
theorem splitAtAny_append {d : α} (hd : isSeparator d = true) (s rest : List α) :
    splitAtAny isSeparator (s ++ d :: rest) =
      splitAtAny isSeparator s ++ splitAtAny isSeparator rest := by
  induction s with
  | nil =>
    obtain ⟨first, pieces, hrest⟩ :=
      List.exists_cons_of_ne_nil (splitAtAny_ne_nil isSeparator rest)
    simp only [List.nil_append, splitAtAny, hrest, hd, if_true, List.singleton_append]
  | cons c s ih =>
    obtain ⟨first, pieces, hs⟩ := List.exists_cons_of_ne_nil (splitAtAny_ne_nil isSeparator s)
    simp only [List.cons_append, splitAtAny, ih, hs]
    split_ifs <;> rfl

/-- A piece ends at the first separator. -/
theorem splitAtAny_append_cons (h : ∀ c ∈ piece, isSeparator c = false) {d : α}
    (hd : isSeparator d = true) (rest : List α) :
    splitAtAny isSeparator (piece ++ d :: rest) = piece :: splitAtAny isSeparator rest := by
  rw [splitAtAny_append hd, splitAtAny_of_piece h, List.singleton_append]

/-- Pieces with one separator between them are told apart again. -/
theorem splitAtAny_intercalate {d : α} (hd : isSeparator d = true) {pieces : List (List α)}
    (h : ∀ p ∈ piece :: pieces, ∀ c ∈ p, isSeparator c = false) :
    splitAtAny isSeparator ([d].intercalate (piece :: pieces)) = piece :: pieces := by
  induction pieces generalizing piece with
  | nil =>
    rw [List.intercalate_singleton, splitAtAny_of_piece (h piece List.mem_cons_self)]
  | cons next pieces ih =>
    obtain ⟨hpiece, hpieces⟩ := List.forall_mem_cons.mp h
    rw [List.intercalate_cons_cons, List.append_assoc, List.singleton_append,
      splitAtAny_append_cons hpiece hd, ih hpieces]

theorem mem_of_mem_splitAtAny {s : List α} (hpiece : piece ∈ splitAtAny isSeparator s) {c : α}
    (hc : c ∈ piece) : c ∈ s := by
  induction s generalizing piece with
  | nil =>
    obtain rfl := List.mem_singleton.mp hpiece
    exact hc
  | cons d s ih =>
    obtain ⟨first, pieces, hs, hcons⟩ := exists_splitAtAny_cons isSeparator d s
    rw [hs] at ih
    rw [hcons] at hpiece
    split_ifs at hpiece
    · rcases List.mem_cons.mp hpiece with rfl | hpiece
      · exact absurd hc List.not_mem_nil
      · exact List.mem_cons_of_mem d (ih hpiece hc)
    · rcases List.mem_cons.mp hpiece with rfl | hpiece
      · rcases List.mem_cons.mp hc with rfl | hc
        · exact List.mem_cons_self
        · exact List.mem_cons_of_mem d (ih List.mem_cons_self hc)
      · exact List.mem_cons_of_mem d (ih (List.mem_cons_of_mem first hpiece) hc)

theorem not_isSeparator_of_mem_splitAtAny {s : List α}
    (hpiece : piece ∈ splitAtAny isSeparator s) {c : α} (hc : c ∈ piece) :
    isSeparator c = false := by
  induction s generalizing piece with
  | nil =>
    obtain rfl := List.mem_singleton.mp hpiece
    cases hc
  | cons d s ih =>
    obtain ⟨first, pieces, hs, hcons⟩ := exists_splitAtAny_cons isSeparator d s
    rw [hs] at ih
    rw [hcons] at hpiece
    split_ifs at hpiece with hd
    · rcases List.mem_cons.mp hpiece with rfl | hpiece
      · cases hc
      · exact ih hpiece hc
    · rcases List.mem_cons.mp hpiece with rfl | hpiece
      · rcases List.mem_cons.mp hc with rfl | hc
        · exact Bool.eq_false_iff.mpr hd
        · exact ih List.mem_cons_self hc
      · exact ih (List.mem_cons_of_mem first hpiece) hc

/-- Where all pieces are empty there is nothing but separators. -/
theorem isSeparator_of_splitAtAny_empty {s : List α}
    (h : ∀ piece ∈ splitAtAny isSeparator s, piece = []) : ∀ c ∈ s, isSeparator c = true := by
  induction s with
  | nil => exact List.forall_mem_nil _
  | cons d s ih =>
    obtain ⟨first, pieces, hs, hcons⟩ := exists_splitAtAny_cons isSeparator d s
    rw [hs] at ih
    rw [hcons] at h
    split_ifs at h with hd
    · exact List.forall_mem_cons.mpr ⟨hd, ih (List.forall_mem_cons.mp h).2⟩
    · cases (List.forall_mem_cons.mp h).1

end Pieces

end ServiceStubs.Naming
