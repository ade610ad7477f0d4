import ServiceStubs.Proofs.Naming
import ServiceStubs.Proofs.Text.Spacing

/-!
# The form of a snake-case name

An underscore comes from a separator or from a capital behind a small letter.  Neither is written
behind another underscore: a separator looks at what is written, and a capital at a mark that is set
only if something else was written last.  So underscores stand singly, and those at the ends are
removed.  Of an ASCII name nothing but the letters and digits is kept besides, and a name in this form
is its own snake-case form.
-/

namespace ServiceStubs.Naming

open ServiceStubs.Rust (forall_ascii forall_isIdentifierPart)
open ServiceStubs.Text (IsSpacedBy isChain_append_of_not_mem)
open ServiceStubs.Text.Letter (isUppercase isAlphanumeric lowercase shifts)

variable {s next : Snake} {c : Char} {name t : List Char}

/-! ## Characters -/

theorem ofNat_ne_underscore {n : Nat} (h : 95 < n) : Char.ofNat n ≠ '_' := by
  intro heq
  by_cases hvalid : n.isValidChar
  · have hchar : Char.ofNat n = Char.ofNatAux n hvalid := dif_pos hvalid
    have hvalue : n = 95 := congrArg Char.toNat (hchar.symm.trans heq)
    omega
  · have hchar : Char.ofNat n = '\x00' := dif_neg hvalid
    cases hchar.symm.trans heq

/-- No small form has an underscore, save that of the underscore itself. -/
theorem underscore_not_mem_lowercase (h : c ≠ '_') : '_' ∉ lowercase c := by
  rw [lowercase]
  split_ifs with hascii hdotted
  · exact forall_ascii (p := fun c => c ≠ '_' → '_' ∉ [c.toLower]) (by decide) hascii h
  · decide
  · have hpartners : shifts.all (fun s => decide (95 < s.partner)) = true := by decide +kernel
    split
    · next s hfind =>
      have hpartner : 95 < s.partner := by
        simpa using List.all_eq_true.mp hpartners s (List.mem_of_find?_eq_some hfind)
      rw [List.mem_singleton]
      exact (ofNat_ne_underscore (Nat.lt_of_lt_of_le hpartner (Nat.le_add_left _ _))).symm
    · rw [List.mem_singleton]
      exact h.symm

theorem underscore_not_mem_of_isUppercase (h : isUppercase c = true) :
    '_' ∉ (lowercase c).reverse := by
  rw [List.mem_reverse]
  apply underscore_not_mem_lowercase
  rintro rfl
  exact absurd h (by decide)

theorem ne_underscore_of_isAlphanumeric (h : isAlphanumeric c = true) : c ≠ '_' := by
  rintro rfl
  exact absurd h (by decide)

/-! ## Single underscores -/

/-- No two underscores are written next to each other, and none is written last where a capital would
write one more. -/
structure Snake.IsSpaced (s : Snake) : Prop where
  apart : s.written.IsChain fun a b => ¬ (a = '_' ∧ b = '_')
  mark : s.afterSmall = true → '_' ∉ s.written.head?

namespace Snake.IsSpaced

theorem underscore_cons (h : s.IsSpaced) (hhead : '_' ∉ s.written.head?) :
    ('_' :: s.written).IsChain fun a b => ¬ (a = '_' ∧ b = '_') :=
  List.isChain_cons.mpr ⟨fun _ hd heq => hhead (heq.2 ▸ hd), h.apart⟩

theorem of_moves (h : s.Moves c next) (hs : s.IsSpaced) : next.IsSpaced := by
  cases h with
  | word hupper hmark =>
    have hlower := underscore_not_mem_of_isUppercase hupper
    exact ⟨isChain_append_of_not_mem hlower (hs.underscore_cons (hs.mark hmark)), nofun⟩
  | capital hupper =>
    have hlower := underscore_not_mem_of_isUppercase hupper
    exact ⟨isChain_append_of_not_mem hlower hs.apart, nofun⟩
  | letter _ hletter =>
    have hne := ne_underscore_of_isAlphanumeric hletter
    refine ⟨List.isChain_cons.mpr ⟨fun _ _ heq => hne heq.1, hs.apart⟩, fun _ hhead => ?_⟩
    exact hne (Option.some.inj hhead)
  | separator _ _ hwritten hd =>
    refine ⟨hs.underscore_cons fun hhead => hd ?_, nofun⟩
    rw [hwritten] at hhead
    exact Option.some.inj hhead
  | nothing _ _ hmark => exact ⟨hs.apart, fun hnext => hs.mark (hmark hnext)⟩

theorem foldl_step (name : List Char) (h : s.IsSpaced) : (name.foldl Snake.step s).IsSpaced := by
  induction name generalizing s with
  | nil => exact h
  | cons c name ih => exact ih (of_moves (s.moves_step c) h)

/-- Removing the underscores at both ends leaves the others single. -/
theorem finish (h : s.IsSpaced) : IsSpacedBy '_' s.finish := by
  obtain ⟨front, hfront⟩ : s.finish <:+ (s.written.dropWhile (· == '_')).reverse :=
    List.dropWhile_suffix _
  refine ⟨head?_dropWhile_underscore _, ?_, ?_⟩
  · intro hlast
    apply head?_dropWhile_underscore s.written
    rw [← List.getLast?_reverse, ← hfront, List.getLast?_append, Option.mem_def.mp hlast]
    rfl
  · rw [IsSpacedBy.not_infix_iff]
    have hdropped := h.apart.suffix (List.dropWhile_suffix (· == '_'))
    have hreversed : (s.written.dropWhile (· == '_')).reverse.IsChain
        fun a b => ¬ (a = '_' ∧ b = '_') :=
      List.isChain_reverse.mpr (hdropped.imp fun _ _ hne heq => hne heq.symm)
    exact (hfront ▸ hreversed).suffix (List.suffix_append front s.finish)

end Snake.IsSpaced

/-! ## Letters and digits -/

/-- A text of ASCII characters. -/
def IsAscii (s : List Char) : Prop := ∀ c ∈ s, c.toNat < 128

instance (s : List Char) : Decidable (IsAscii s) := List.decidableBAll _ s

/-- A small letter or a digit, of ASCII. -/
def isSmall (c : Char) : Bool := c.isLower || c.isDigit

/-- The letters and digits of an ASCII text, in their small forms. -/
def smallForms (s : List Char) : List Char :=
  (s.filter Char.isAlphanum).map Char.toLower

theorem isSmall_toLower (h : c.isAlphanum = true) : isSmall c.toLower = true :=
  forall_isIdentifierPart (p := fun c => c.isAlphanum = true → isSmall c.toLower = true) (by decide)
    (by rw [isIdentifierPart, h, Bool.true_or]) h

theorem isSmall_of_mem_smallForms (h : c ∈ smallForms t) : isSmall c = true := by
  obtain ⟨d, hd, rfl⟩ := List.mem_map.mp h
  exact isSmall_toLower (List.mem_filter.mp hd).2

theorem isAlphanum_of_isSmall (h : isSmall c = true) : c.isAlphanum = true := by
  rcases (Bool.or_eq_true _ _).mp h with hlower | hdigit
  · have halpha : c.isAlpha = true := (Bool.or_eq_true _ _).mpr (.inr hlower)
    exact (Bool.or_eq_true _ _).mpr (.inl halpha)
  · exact (Bool.or_eq_true _ _).mpr (.inr hdigit)

theorem ne_underscore_of_isSmall (h : isSmall c = true) : c ≠ '_' := by
  rintro rfl
  exact absurd h (by decide)

theorem smallForms_singleton (h : c.isAlphanum = true) : smallForms [c] = [c.toLower] := by
  simp [smallForms, h]

theorem smallForms_singleton_eq_nil (h : c.isAlphanum = false) : smallForms [c] = [] := by
  simp [smallForms, h]

/-- The characters of a written row that are no underscores, in reading order. -/
def kept (written : List Char) : List Char :=
  written.reverse.filter (· != '_')

theorem kept_underscore (written : List Char) : kept ('_' :: written) = kept written := by
  simp [kept]

theorem kept_cons (h : c ≠ '_') (written : List Char) : kept (c :: written) = kept written ++ [c] := by
  simp [kept, h]

/-- A step with an ASCII character keeps its small form, if it is a letter or digit. -/
theorem kept_of_moves (h : s.Moves c next) (hc : c.toNat < 128) :
    kept next.written = kept s.written ++ smallForms [c] := by
  have hupperEq : isUppercase c = c.isUpper := if_pos hc
  have hletterEq : isAlphanumeric c = c.isAlphanum := if_pos hc
  have hlowerEq : (lowercase c).reverse = [c.toLower] := by
    rw [lowercase, if_pos hc, List.reverse_singleton]
  have hcapital (h : isUppercase c = true) : c.isAlphanum = true := by
    have halpha : c.isAlpha = true := (Bool.or_eq_true _ _).mpr (.inl (hupperEq ▸ h))
    exact (Bool.or_eq_true _ _).mpr (.inl halpha)
  have hne (h : c.isAlphanum = true) : c.toLower ≠ '_' :=
    ne_underscore_of_isSmall (isSmall_toLower h)
  cases h with
  | word hupper =>
    have hletter := hcapital hupper
    simp only [hlowerEq, List.singleton_append, kept_cons (hne hletter), kept_underscore,
      smallForms_singleton hletter]
  | capital hupper =>
    have hletter := hcapital hupper
    simp only [hlowerEq, List.singleton_append, kept_cons (hne hletter),
      smallForms_singleton hletter]
  | letter hupper hletter =>
    rw [hupperEq] at hupper
    rw [hletterEq] at hletter
    have hlower : c.toLower = c :=
      forall_ascii (p := fun c => c.isUpper = false → c.toLower = c) (by decide) hc hupper
    simp only [kept_cons (hlower ▸ hne hletter), smallForms_singleton hletter, hlower]
  | separator _ hletter =>
    have hforms : smallForms [c] = [] := smallForms_singleton_eq_nil (hletterEq ▸ hletter)
    simp only [kept_underscore, hforms, List.append_nil]
  | nothing _ hletter =>
    have hforms : smallForms [c] = [] := smallForms_singleton_eq_nil (hletterEq ▸ hletter)
    rw [hforms, List.append_nil]

theorem kept_foldl_step (s : Snake) (hname : IsAscii name) :
    kept (name.foldl Snake.step s).written = kept s.written ++ smallForms name := by
  induction name generalizing s with
  | nil => simp [smallForms]
  | cons c name ih =>
    obtain ⟨hc, hname⟩ := List.forall_mem_cons.mp hname
    have hforms : smallForms (c :: name) = smallForms [c] ++ smallForms name := by
      rw [smallForms, ← List.singleton_append, List.filter_append, List.map_append]
      rfl
    rw [List.foldl_cons, ih _ hname, kept_of_moves (s.moves_step c) hc, hforms, List.append_assoc]

/-- Removing underscores at the ends takes away nothing else. -/
theorem filter_finish (s : Snake) : s.finish.filter (· != '_') = kept s.written := by
  have hdrop (t : List Char) :
      (t.dropWhile (· == '_')).filter (· != '_') = t.filter (· != '_') := by
    induction t with
    | nil => rfl
    | cons c t ih =>
      rw [List.dropWhile_cons]
      split_ifs with hc
      · rw [ih, List.filter_cons_of_neg (by simpa using hc)]
      · rfl
  rw [Snake.finish, hdrop, List.filter_reverse, hdrop, kept, List.filter_reverse]

theorem filter_snakeCase {name : String} (h : IsAscii name.toList) :
    (snakeCase name).toList.filter (· != '_') = smallForms name.toList := by
  rw [snakeCase, String.toList_ofList, filter_finish, kept_foldl_step _ h]
  rfl

theorem isSmall_or_eq_of_mem_snakeCase {name : String} (h : IsAscii name.toList)
    (hc : c ∈ (snakeCase name).toList) : isSmall c = true ∨ c = '_' := by
  by_cases hunderscore : c = '_'
  · exact .inr hunderscore
  · have hmem : c ∈ (snakeCase name).toList.filter (· != '_') :=
      List.mem_filter.mpr ⟨hc, bne_iff_ne.mpr hunderscore⟩
    rw [filter_snakeCase h] at hmem
    exact .inl (isSmall_of_mem_smallForms hmem)

/-! ## Names in snake case -/

namespace Snake

theorem written_step_of_isSmall (s : Snake) (h : isSmall c = true) :
    (s.step c).written = c :: s.written := by
  have hpart : isIdentifierPart c = true := by
    rw [isIdentifierPart, isAlphanum_of_isSmall h, Bool.true_or]
  have hclass : isUppercase c = false ∧ isAlphanumeric c = true :=
    forall_isIdentifierPart
      (p := fun c => isSmall c = true → isUppercase c = false ∧ isAlphanumeric c = true)
      (by decide) hpart h
  rw [step, hclass.1, hclass.2]
  rfl

theorem written_step_underscore {d : Char} {rest : List Char} (hwritten : s.written = d :: rest)
    (hd : d ≠ '_') : (s.step '_').written = '_' :: s.written := by
  have hupper : isUppercase '_' = false := by decide
  have hletter : isAlphanumeric '_' = false := by decide
  simp [step, hupper, hletter, hwritten, hd]

/-- By induction on the row, from its end: an underscore finds something else before it. -/
theorem written_foldl_step (hfirst : '_' ∉ t.head?)
    (hchars : ∀ c ∈ t, isSmall c = true ∨ c = '_')
    (hapart : t.IsChain fun a b => ¬ (a = '_' ∧ b = '_')) :
    (t.foldl step ⟨[], false⟩).written = t.reverse := by
  induction t using List.reverseRecOn with
  | nil => rfl
  | append_singleton t c ih =>
    obtain ⟨ht, -, hseam⟩ := List.isChain_append.mp hapart
    have hrow : (t.foldl step ⟨[], false⟩).written = t.reverse := by
      refine ih (fun hhead => hfirst ?_) (fun d hd => hchars d (List.mem_append_left _ hd)) ht
      rw [List.head?_append, Option.mem_def.mp hhead]
      rfl
    rw [List.foldl_append, List.foldl_cons, List.foldl_nil, List.reverse_append,
      List.reverse_singleton, List.singleton_append, ← hrow]
    rcases hchars c (by simp) with hsmall | rfl
    · exact written_step_of_isSmall _ hsmall
    · rcases List.eq_nil_or_concat' t with rfl | ⟨front, d, rfl⟩
      · exact absurd rfl hfirst
      · have hd : d ≠ '_' := fun heq => hseam d (by simp) '_' (by simp) ⟨heq, rfl⟩
        rw [List.reverse_append] at hrow
        exact written_step_underscore hrow hd

end Snake

theorem dropWhile_underscore_eq_self (h : '_' ∉ t.head?) : t.dropWhile (· == '_') = t := by
  cases t with
  | nil => rfl
  | cons c t =>
    refine List.dropWhile_cons_of_neg fun hc => h ?_
    rw [List.head?_cons, eq_of_beq hc]
    rfl

theorem snakeCase_eq_self {name : String} (h : IsSpacedBy '_' name.toList)
    (hchars : ∀ c ∈ name.toList, isSmall c = true ∨ c = '_') : snakeCase name = name := by
  have hwritten := Snake.written_foldl_step h.first hchars (IsSpacedBy.not_infix_iff.mp h.apart)
  have hlast : '_' ∉ name.toList.reverse.head? := by
    rw [List.head?_reverse]
    exact h.last
  rw [snakeCase, Snake.finish, hwritten, dropWhile_underscore_eq_self hlast, List.reverse_reverse,
    dropWhile_underscore_eq_self h.first, String.ofList_toList]

/-- No underscore stands at either end of a snake-case form or next to another one.  The form of an
ASCII name is made of small letters, digits and underscores; without the underscores it is the row of
the letters and digits of the name in their small forms; and it is its own snake-case form. -/
theorem snakeCase_wellFormed (name : String) :
    IsSpacedBy '_' (snakeCase name).toList ∧
    (IsAscii name.toList →
      (∀ c ∈ (snakeCase name).toList, isSmall c = true ∨ c = '_') ∧
      (snakeCase name).toList.filter (· != '_') = smallForms name.toList ∧
      snakeCase (snakeCase name) = snakeCase name) := by
  have hempty : (⟨[], false⟩ : Snake).IsSpaced := ⟨.nil, nofun⟩
  have hspaced : IsSpacedBy '_' (snakeCase name).toList := by
    rw [snakeCase, String.toList_ofList]
    exact (hempty.foldl_step name.toList).finish
  refine ⟨hspaced, fun hascii => ?_⟩
  have hchars (c : Char) (hc : c ∈ (snakeCase name).toList) : isSmall c = true ∨ c = '_' :=
    isSmall_or_eq_of_mem_snakeCase hascii hc
  exact ⟨hchars, filter_snakeCase hascii, snakeCase_eq_self hspaced hchars⟩

/-- Separators at both ends and next to each other, ignored characters between a small letter and a
capital, and a capital behind a digit. -/
theorem snakeCase_wellFormed_separators :
    let name := "__get!HTTP - Response_2V."
    IsAscii name.toList ∧ snakeCase name = "get_http_response_2_v" ∧
      IsSpacedBy '_' (snakeCase name).toList ∧
      (snakeCase name).toList.filter (· != '_') = smallForms name.toList ∧
      snakeCase (snakeCase name) = snakeCase name := by
  intro name
  have hascii : IsAscii name.toList := by decide
  obtain ⟨hspaced, hform⟩ := snakeCase_wellFormed name
  obtain ⟨-, hkept, hself⟩ := hform hascii
  exact ⟨hascii, by decide, hspaced, hkept, hself⟩

end ServiceStubs.Naming
