import ServiceStubs.Proofs.Json.Recognition

/-!
# Containers are unambiguous

A text can be taken apart as a list of values in one way only, and so can an object as its members:
where an item ends is settled by what may follow it in a row.
-/

namespace ServiceStubs.Json

variable {β : Type} {P : β → List Char → Prop} {list first : Bool} {b : β} {bs bs' : List β}
variable {gap gap' value value' item row row' word r r' s s' : List Char}
variable {values values' : List (List Char)} {members members' : List (String × List Char)}

/-- A value and what follows it can be told apart. -/
theorem IsValue.append_inj (h : IsValue value) (h' : IsValue value') (hr : Stops r)
    (hr' : Stops r') (heq : value ++ r = value' ++ r') : value = value' ∧ r = r' := by
  have hskip := skipValue_append isGap_nil h hr
  have hskip' := skipValue_append isGap_nil h' hr'
  rw [heq, hskip'] at hskip
  obtain rfl := Except.ok.inj hskip
  exact ⟨List.append_cancel_right heq, rfl⟩

/-! ## Rows -/

theorem skipBlanks_row (hgap : IsGap gap) (s : List Char) :
    skipBlanks (gap ++ (lead first ++ s)) = if first then skipBlanks s else ',' :: s := by
  rw [skipBlanks_append hgap]
  cases first with
  | true => rfl
  | false => exact skipBlanks_cons (by decide) s

theorem skipBlanks_row_inj (hgap : IsGap gap) (hgap' : IsGap gap')
    (heq : gap ++ (lead first ++ s) = gap' ++ (lead first ++ s')) :
    skipBlanks s = skipBlanks s' := by
  have hskip := congrArg skipBlanks heq
  rw [skipBlanks_row hgap, skipBlanks_row hgap'] at hskip
  cases first with
  | true => exact hskip
  | false => exact congrArg skipBlanks (List.cons.inj hskip).2

/-- The items can be told apart, and an item from the end of the row. -/
structure TellsApart (list : Bool) (P : β → List Char → Prop) : Prop where
  item : ∀ {b b' item item' r r'}, P b item → P b' item' → Stops r → Stops r' →
    skipBlanks (item ++ r) = skipBlanks (item' ++ r') → b = b' ∧ r = r'
  ne_close : ∀ {b item}, P b item → ∀ r r', skipBlanks (item ++ r) ≠ closing list :: r'
  stops : ∀ {bs row}, Row P false bs row → ∀ r, Stops (row ++ closing list :: r)

theorem TellsApart.row_ne_close (h : TellsApart list P) (hitem : P b item) (hgap : IsGap gap)
    (hgap' : IsGap gap') :
    gap' ++ closing list :: r' ≠ gap ++ (lead first ++ (item ++ r)) := by
  intro heq
  have hskip := congrArg skipBlanks heq
  rw [skipBlanks_gap_cons hgap' (by cases list <;> decide), skipBlanks_row hgap] at hskip
  cases first with
  | true => exact h.ne_close hitem _ _ hskip.symm
  | false =>
    have hclose : closing list ≠ ',' := by cases list <;> decide
    exact hclose (List.cons.inj hskip).1

theorem TellsApart.row_unique (h : TellsApart list P) (hrow : Row P first bs row)
    (hrow' : Row P first bs' row') (heq : row ++ closing list :: r = row' ++ closing list :: r') :
    bs = bs' := by
  induction hrow generalizing bs' row' with
  | nil hgap =>
    cases hrow' with
    | nil => rfl
    | cons hgap' hitem' =>
      simp only [List.append_assoc] at heq
      exact absurd heq (h.row_ne_close hitem' hgap' hgap)
  | cons hgap hitem htail ih =>
    cases hrow' with
    | nil hgap' =>
      simp only [List.append_assoc] at heq
      exact absurd heq.symm (h.row_ne_close hitem hgap hgap')
    | cons hgap' hitem' htail' =>
      simp only [List.append_assoc] at heq
      obtain ⟨rfl, hrest⟩ := h.item hitem hitem' (h.stops htail r) (h.stops htail' r')
        (skipBlanks_row_inj hgap hgap' heq)
      rw [ih htail' hrest]

/-! ## Lists and objects -/

theorem tellsApart_items : TellsApart true IsItem where
  item := by
    rintro value value' _ _ r r' ⟨hgap, hvalue⟩ ⟨hgap', hvalue'⟩ hr hr' heq
    rw [List.append_assoc, List.append_assoc, skipBlanks_value hgap hvalue,
      skipBlanks_value hgap' hvalue'] at heq
    exact hvalue.append_inj hvalue' hr hr' heq
  ne_close := by
    rintro value _ ⟨hgap, hvalue⟩ r r' heq
    rw [List.append_assoc, skipBlanks_value hgap hvalue] at heq
    obtain ⟨c, rest, rfl, hc⟩ := hvalue.starts
    obtain rfl := (List.cons.inj heq).1
    exact absurd hc (by decide)
  stops hrow r := hrow.derives_items.stops r

theorem skipBlanks_member {name : String} (h : IsMember (name, value) item) (r : List Char) :
    ∃ rest behind gap, skipBlanks (item ++ r) = '"' :: rest ∧
      readStringBody rest = .ok (name, behind) ∧ IsGap gap ∧ IsValue value ∧
        readColon behind = .ok (gap ++ (value ++ r)) := by
  obtain ⟨hgap, hkey, hgap', hgap'', hvalue⟩ := h
  simp only [List.append_assoc, List.cons_append]
  rw [skipBlanks_gap_cons hgap (by decide)]
  exact ⟨_, _, _, rfl, readStringBody_eq_ok.mpr ⟨_, hkey, rfl⟩, hgap'', hvalue,
    readColon_gap hgap' _⟩

theorem tellsApart_members : TellsApart false IsMember where
  item := by
    rintro ⟨name, value⟩ ⟨name', value'⟩ _ _ r r' hitem hitem' hr hr' heq
    obtain ⟨rest, behind, gap, hskip, hname, hgap, hvalue, hcolon⟩ := skipBlanks_member hitem r
    obtain ⟨rest', behind', gap', hskip', hname', hgap', hvalue', hcolon'⟩ :=
      skipBlanks_member hitem' r'
    rw [hskip, hskip', List.cons.injEq] at heq
    obtain ⟨-, rfl⟩ := heq
    rw [hname, Except.ok.injEq, Prod.mk.injEq] at hname'
    obtain ⟨rfl, rfl⟩ := hname'
    rw [hcolon, Except.ok.injEq] at hcolon'
    have hvalues := congrArg skipBlanks hcolon'
    rw [skipBlanks_value hgap hvalue, skipBlanks_value hgap' hvalue'] at hvalues
    obtain ⟨rfl, rfl⟩ := hvalue.append_inj hvalue' hr hr' hvalues
    exact ⟨rfl, rfl⟩
  ne_close := by
    rintro ⟨name, value⟩ _ hitem r r' heq
    obtain ⟨rest, -, -, hskip, -⟩ := skipBlanks_member hitem r
    rw [hskip] at heq
    exact absurd (List.cons.inj heq).1 (by decide)
  stops hrow r := hrow.derives_members.stops r

theorem IsList.unique (h : IsList values word) (h' : IsList values' word) : values = values' := by
  obtain ⟨row, hrow, rfl⟩ := h
  obtain ⟨row', hrow', heq⟩ := h'
  exact tellsApart_items.row_unique hrow hrow' (List.cons.inj heq).2

theorem IsObject.unique (h : IsObject members word) (h' : IsObject members' word) :
    members = members' := by
  obtain ⟨row, hrow, rfl⟩ := h
  obtain ⟨row', hrow', heq⟩ := h'
  exact tellsApart_members.row_unique hrow hrow' (List.cons.inj heq).2

/-- A document holds one value. -/
theorem IsDocument.exists_both {P Q : List Char → Prop} {text : String} (h : IsDocument P text)
    (h' : IsDocument Q text) (hP : ∀ word, P word → IsValue word)
    (hQ : ∀ word, Q word → IsValue word) : ∃ word, P word ∧ Q word := by
  obtain ⟨gap, word, behind, hgap, hword, hbehind, htext⟩ := h
  obtain ⟨gap', word', behind', hgap', hword', hbehind', htext'⟩ := h'
  have hskip := congrArg skipBlanks (htext.symm.trans htext')
  rw [skipBlanks_value hgap (hP _ hword), skipBlanks_value hgap' (hQ _ hword')] at hskip
  obtain ⟨rfl, -⟩ := IsValue.append_inj (hP _ hword) (hQ _ hword') (stops_gap hbehind)
    (stops_gap hbehind') hskip
  exact ⟨word, hword, hword'⟩

theorem IsObject.not_isList (h : IsObject members word) : ¬ IsList values word := by
  obtain ⟨row, -, rfl⟩ := h
  rintro ⟨row', -, heq⟩
  exact absurd (List.cons.inj heq).1 (by decide)

theorem IsList.ne_null (h : IsList values word) : word ≠ ['n', 'u', 'l', 'l'] := by
  obtain ⟨row, -, rfl⟩ := h
  exact fun heq => absurd (List.cons.inj heq).1 (by decide)

end ServiceStubs.Json
