import Mathlib.Data.List.DropRight
import ServiceStubs.Proofs.Text.Comment
import ServiceStubs.Proofs.Text.Occurrence

/-!
# Taking text out of a block comment

An embedded text stands between the first opening marker and the first closing marker.  Embedding
softens its quotes and takes its delimiters apart, so it is found there as it was if it holds nothing
that could also come from embedding: no apostrophe, no delimiter, and no closing marker.  An opening
marker in it does no harm, since that of the comment comes first.
-/

namespace ServiceStubs.Text

/-- The text without the blanks at its ends. -/
def trim (s : List Char) : List Char :=
  (s.dropWhile isBlank).rdropWhile isBlank

/-- Blanks around a text are all that is trimmed off, if it starts and ends with something else. -/
theorem trim_append {s : List Char} {a b c d : Char} (ha : isBlank a = true)
    (hb : isBlank b = true) (hc : ¬ isBlank c = true) (hd : ¬ isBlank d = true) :
    trim (a :: (c :: (s ++ [d]) ++ [b])) = c :: (s ++ [d]) := by
  rw [trim, List.dropWhile_cons_of_pos ha, List.cons_append, List.dropWhile_cons_of_neg hc,
    ← List.cons_append, List.rdropWhile_concat_pos _ _ _ hb, ← List.cons_append,
    List.rdropWhile_concat_neg _ _ _ hd]

namespace Comment

/-- An apostrophe becomes a double quote. -/
def hardenQuote (c : Char) : Char :=
  if c = '\'' then '"' else c

/-- What stands between the first opening marker and the first closing marker of a text, with double
quotes again and without the blanks around it. -/
def carried? (text : String) : Option String := do
  let (before, _) ← text.toList.dropInfix? blockBegin.toList
  let (through, _) ← text.toList.dropInfix? blockEnd.toList
  let inside ← through.dropPrefix? (before ++ blockBegin.toList)
  return String.ofList (trim (inside.map hardenQuote))

/-- What a text must not hold to be carried unchanged. -/
def obstacles : List String := ["'", "*/", "/*", blockEnd]

/-- The text can be carried unchanged. -/
def IsClear (s : List Char) : Prop := ∀ o ∈ obstacles, ¬ o.toList <:+: s

instance (s : List Char) : Decidable (IsClear s) := List.decidableBAll _ obstacles

variable {s : List Char}

/-! ## What embedding leaves as it is -/

theorem IsClear.apostrophe_not_mem (h : IsClear s) : '\'' ∉ s := by
  intro hmem
  obtain ⟨before, after, rfl⟩ := List.append_of_mem hmem
  exact h "'" (by decide) ⟨before, after, by simp⟩

theorem map_hardenQuote_softenQuote (h : '\'' ∉ s) :
    (s.map softenQuote).map hardenQuote = s := by
  have hchar : ∀ c ∈ s, hardenQuote (softenQuote c) = c := by
    intro c hc
    have hne : c ≠ '\'' := fun heq => h (heq ▸ hc)
    by_cases hquote : c = '"'
    · rw [hquote]
      decide
    · rw [softenQuote, if_neg hquote, hardenQuote, if_neg hne]
  rw [List.map_map]
  exact (List.map_congr_left hchar).trans (List.map_id _)

/-- Softening quotes brings in apostrophes and nothing else. -/
theorem infix_of_infix_map_softenQuote {pattern : List Char} (hpattern : '\'' ∉ pattern)
    (hs : '\'' ∉ s) (h : pattern <:+: s.map softenQuote) : pattern <:+: s := by
  have hid : pattern.map hardenQuote = pattern := by
    refine (List.map_congr_left fun c hc => ?_).trans (List.map_id _)
    have hne : c ≠ '\'' := fun heq => hpattern (heq ▸ hc)
    exact if_neg hne
  have hback := h.map hardenQuote
  rwa [hid, map_hardenQuote_softenQuote hs] at hback

theorem separate_eq_self (h : IsApart s) : separate s = s := by
  induction s using separate.induct with
  | case1 => rfl
  | case2 a => rfl
  | case3 a b rest hpair ih =>
    have hno := (List.isChain_cons_cons.mp h).1
    rw [hpair] at hno
    cases hno
  | case4 a b rest hpair ih =>
    rw [separate, if_neg hpair, ih (List.isChain_cons_cons.mp h).2]

theorem isApart_of_not_infix (hcloser : ¬ "*/".toList <:+: s) (hopener : ¬ "/*".toList <:+: s) :
    IsApart s := by
  rw [IsApart, List.isChain_iff_forall_rel_of_append_cons_cons]
  intro a b before after heq
  have hinfix : [a, b] <:+: s := ⟨before, after, by rw [heq]; simp⟩
  by_contra hpair
  simp only [isDelimiterPair, Bool.not_eq_false, Bool.or_eq_true, Bool.and_eq_true,
    decide_eq_true_eq] at hpair
  rcases hpair with ⟨rfl, rfl⟩ | ⟨rfl, rfl⟩
  · exact hcloser hinfix
  · exact hopener hinfix

/-- Nothing but the quotes of a clear text is changed. -/
theorem IsClear.escapeBlock_eq {model : String} (h : IsClear model.toList) :
    (escapeBlock model).toList = model.toList.map softenQuote := by
  have hquote := h.apostrophe_not_mem
  have hapart : IsApart (model.toList.map softenQuote) := by
    apply isApart_of_not_infix
    · exact fun hinfix => h "*/" (by decide)
        (infix_of_infix_map_softenQuote (by decide) hquote hinfix)
    · exact fun hinfix => h "/*" (by decide)
        (infix_of_infix_map_softenQuote (by decide) hquote hinfix)
  rw [escapeBlock, String.toList_ofList, separate_eq_self hapart]

/-! ## What is carried -/

/-- Neither marker is in front, so the text between the marker lines is found. -/
theorem carried?_eq {text : String} {before inside after : List Char}
    (htext : text.toList = before ++ '\n' :: (blockBegin.toList ++ '\n' ::
      (inside ++ '\n' :: (blockEnd.toList ++ after))))
    (hbegin : ¬ blockBegin.toList <:+: before) (hend : ¬ blockEnd.toList <:+: before)
    (hinside : ¬ blockEnd.toList <:+: inside) :
    carried? text = some (String.ofList (trim (('\n' :: (inside ++ ['\n'])).map hardenQuote))) := by
  have hfeed : '\n' ∉ blockBegin.toList ∧ '\n' ∉ blockEnd.toList := by decide
  have hmarkers : ¬ blockEnd.toList <:+: blockBegin.toList := by decide
  have hopen := dropInfix?_append_cons hfeed.1 hbegin
    ('\n' :: (inside ++ '\n' :: (blockEnd.toList ++ after)))
  have hbody : ¬ blockEnd.toList <:+:
      before ++ '\n' :: (blockBegin.toList ++ '\n' :: inside) := by
    intro h
    rcases infix_append_cons hfeed.2 h with h | h
    · exact hend h
    · rcases infix_append_cons hfeed.2 h with h | h
      · exact hmarkers h
      · exact hinside h
  have hclose := dropInfix?_append_cons hfeed.2 hbody after
  have hthrough : before ++ '\n' :: (blockBegin.toList ++ '\n' :: inside) ++ ['\n'] =
      before ++ ['\n'] ++ blockBegin.toList ++ '\n' :: (inside ++ ['\n']) := by
    simp only [List.append_assoc, List.cons_append, List.nil_append]
  have hwhole : text.toList = before ++ '\n' :: (blockBegin.toList ++ '\n' :: inside) ++
      '\n' :: (blockEnd.toList ++ after) := by
    rw [htext]
    simp only [List.append_assoc, List.cons_append]
  have hinner : (before ++ ['\n'] ++ blockBegin.toList ++ '\n' :: (inside ++ ['\n'])).dropPrefix?
      (before ++ ['\n'] ++ blockBegin.toList) = some ('\n' :: (inside ++ ['\n'])) :=
    List.dropPrefix?_eq_some_iff.mpr ⟨_, rfl, beq_self_eq_true _⟩
  rw [carried?, hwhole, hclose, ← hwhole, htext, hopen, hthrough]
  simp only [Option.bind_eq_bind, Option.bind_some, hinner]
  rfl

/-- The comment that carries a clear text. -/
theorem IsClear.toList_embed {model : String} (h : IsClear model.toList) :
    (embed model).toList =
      '/' :: ("* Auto Generated".toList ++ '\n' :: (blockBegin.toList ++ '\n' ::
        (model.toList.map softenQuote ++ '\n' :: (blockEnd.toList ++ "\n*/".toList)))) := by
  have hopener : "/* Auto Generated\n".toList = '/' :: ("* Auto Generated".toList ++ ['\n']) := by
    decide
  have hbreak : "\n".toList = ['\n'] := rfl
  unfold embed
  simp only [String.toList_append, h.escapeBlock_eq, hopener, hbreak, List.append_assoc,
    List.cons_append, List.nil_append]

/-- A clear text without blanks at its ends is carried by its embedding, whatever follows and
whatever stands before, as long as no marker does. -/
theorem carried?_embed {before after model : String} {body : List Char} {c d : Char}
    (hbegin : ¬ blockBegin.toList <:+: before.toList)
    (hend : ¬ blockEnd.toList <:+: before.toList) (hclear : IsClear model.toList)
    (hmodel : model.toList = c :: (body ++ [d])) (hc : ¬ isBlank c = true)
    (hd : ¬ isBlank d = true) : carried? (before ++ embed model ++ after) = some model := by
  have hquote := hclear.apostrophe_not_mem
  have htext : (before ++ embed model ++ after).toList =
      (before.toList ++ '/' :: "* Auto Generated".toList) ++ '\n' :: (blockBegin.toList ++ '\n' ::
        (model.toList.map softenQuote ++ '\n' ::
          (blockEnd.toList ++ ("\n*/".toList ++ after.toList)))) := by
    simp only [String.toList_append, hclear.toList_embed, List.append_assoc, List.cons_append]
  -- No marker holds a slash, so none reaches into the opener of the comment.
  have hfront {marker : List Char} (hslash : '/' ∉ marker)
      (hopener : ¬ marker <:+: "* Auto Generated".toList) (hmarker : ¬ marker <:+: before.toList) :
      ¬ marker <:+: before.toList ++ '/' :: "* Auto Generated".toList := by
    intro h
    rcases infix_append_cons hslash h with h | h
    · exact hmarker h
    · exact hopener h
  have hinside : ¬ blockEnd.toList <:+: model.toList.map softenQuote := by
    intro h
    exact hclear blockEnd (by decide) (infix_of_infix_map_softenQuote (by decide) hquote h)
  have hback : ('\n' :: (model.toList.map softenQuote ++ ['\n'])).map hardenQuote =
      '\n' :: (model.toList ++ ['\n']) := by
    rw [List.map_cons, List.map_append, map_hardenQuote_softenQuote hquote]
    rfl
  rw [carried?_eq htext (hfront (by decide) (by decide) hbegin)
    (hfront (by decide) (by decide) hend) hinside, hback, hmodel,
    trim_append (by decide) (by decide) hc hd, ← hmodel, String.ofList_toList]

end Comment

end ServiceStubs.Text
