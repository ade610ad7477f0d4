import Mathlib.Data.List.Forall2
import ServiceStubs.Proofs.Json.Unambiguous

/-!
# Lists, values for which null is empty, and tags

What is said of the readers of single values goes on to these: a list is recognized if its items
are, null may stand for what is empty, and a tag is written as its name or as the only key of an
object.
-/

namespace ServiceStubs.Json

variable {α : Type} {read : Reader α} {L L' : List Char → α → Prop}
variable {first : Bool} {fuel : Nat} {as : List α} {word s r row : List Char}
variable {values : List (List Char)}

/-! ## Lists -/

/-- A list whose items write those values. -/
inductive ListOf (L : List Char → α → Prop) : List Char → List α → Prop where
  | intro {word : List Char} {values : List (List Char)} {as : List α} (h : IsList values word)
      (hitems : List.Forall₂ L values as) : ListOf L word as

theorem ListOf.mono (hL : ∀ value a, L value a → L' value a) (h : ListOf L word as) :
    ListOf L' word as := by
  obtain ⟨hlist, hitems⟩ := h
  exact ⟨hlist, hitems.imp hL⟩

/-- Every item of a list writes something. -/
theorem ListOf.exists_of_mem {value : List Char} (h : ListOf L word as) (hlist : IsList values word)
    (hmem : value ∈ values) : ∃ a, L value a := by
  obtain ⟨hlist', hitems⟩ := h
  obtain rfl := hlist.unique hlist'
  obtain ⟨a, -, ha⟩ := exists_mem_of_forall₂ hitems hmem
  exact ⟨a, ha⟩

theorem exists_items (h : Recognizes read L) (hread : readItems read fuel first s = .ok (as, r)) :
    ∃ values row, Row IsItem first values row ∧ List.Forall₂ L values as ∧
      s = row ++ ']' :: r := by
  induction fuel generalizing first s as with
  | zero => cases hread
  | succ fuel ih =>
    rw [readItems, bind_eq_ok] at hread
    obtain ⟨⟨more, s₁⟩, hnext, hread⟩ := hread
    rcases nextItem_cases hnext with ⟨rfl, gap, t, hgap, rfl, rfl⟩ |
      ⟨rfl, gap, gap', hgap, hgap', rfl⟩
    · obtain ⟨rfl, rfl⟩ := Prod.mk.inj (Except.ok.inj hread)
      exact ⟨[], gap, .nil hgap, .nil, rfl⟩
    · dsimp only at hread
      rw [if_pos rfl, bind_eq_ok] at hread
      obtain ⟨⟨a, s₂⟩, hitem, hread⟩ := hread
      obtain ⟨⟨rest, s₃⟩, hrest, hpair⟩ := bind_eq_ok.mp hread
      obtain ⟨rfl, rfl⟩ := Prod.mk.inj (Except.ok.inj hpair)
      obtain ⟨gap₂, value, hgap₂, hvalue, rfl⟩ := h.read_iff.mp hitem
      obtain ⟨values, row, hrow, hvalues, rfl⟩ := ih hrest
      refine ⟨_, _, .cons hgap (.intro (hgap'.append hgap₂) (h.isValue hvalue)) hrow,
        .cons hvalue hvalues, ?_⟩
      simp only [List.append_assoc]

theorem readItems_row (h : Recognizes read L) (hitems : List.Forall₂ L values as)
    (hrow : Row IsItem first values row) (hfuel : values.length < fuel) (r : List Char) :
    readItems read fuel first (row ++ ']' :: r) = .ok (as, r) := by
  induction hitems generalizing first row fuel with
  | nil =>
    obtain ⟨fuel, rfl⟩ := Nat.exists_eq_add_one_of_ne_zero (Nat.ne_of_gt hfuel)
    obtain ⟨hgap⟩ := hrow
    rw [readItems, nextItem_end first hgap]
    rfl
  | @cons value a values as hvalue _ ih =>
    obtain ⟨fuel, rfl⟩ : ∃ n, fuel = n + 1 := ⟨fuel - 1, by omega⟩
    obtain _ | ⟨hgap, ⟨hgap', hitem⟩, htail⟩ := hrow
    have hrest := ih htail (Nat.lt_of_succ_lt_succ hfuel)
    simp only [List.append_assoc]
    rw [readItems, nextItem_gap hgap, nextItem_value hitem hgap']
    show (read _ >>= fun p => readItems read fuel false p.2 >>= fun q =>
      Except.ok (p.1 :: q.1, q.2)) = _
    refine bind_eq_ok.mpr ⟨(a, _), h.read_iff.mpr ⟨[], value, isGap_nil, hvalue, rfl⟩, ?_⟩
    exact bind_eq_ok.mpr ⟨_, hrest, rfl⟩

theorem recognizes_list (h : Recognizes read L) : Recognizes (readList read) (ListOf L) where
  isValue := by
    rintro _ _ ⟨hlist, -⟩
    exact hlist.isValue
  read_iff := by
    intro s as r
    rw [readList]
    constructor
    · intro hread
      split at hread
      · cases hread
      · next c rest hskip =>
        obtain ⟨-, gap, hgap, rfl⟩ := skipBlanks_eq_cons.mp hskip
        split at hread
        · next hopen =>
          obtain ⟨values, row, hrow, hitems, rfl⟩ := exists_items h hread
          refine ⟨gap, _, hgap, .intro ⟨row, hrow, rfl⟩ hitems, ?_⟩
          simp only [hopen, List.append_assoc, List.cons_append, List.nil_append]
        · exact absurd hread wrongType_ne_ok
    · rintro ⟨gap, _, hgap, ⟨⟨row, hrow, rfl⟩, hitems⟩, rfl⟩
      have hlength := hrow.length_le fun _ _ => IsItem.length_pos
      rw [List.cons_append, List.append_assoc, List.singleton_append,
        skipBlanks_gap_cons hgap (by decide)]
      dsimp only
      rw [if_pos rfl]
      refine readItems_row h hitems hrow ?_ r
      rw [List.length_append]
      omega

theorem ListOf.head? {as : List α} (h : ListOf L word as) : word.head? = some '[' := by
  obtain ⟨⟨row, -, rfl⟩, -⟩ := h
  rfl

/-! ## Null for what is empty -/

/-- Null for what is empty, or a text that writes the value. -/
inductive OrEmpty [Inhabited α] (L : List Char → α → Prop) : List Char → α → Prop where
  | null : OrEmpty L ['n', 'u', 'l', 'l'] default
  | value {word : List Char} {a : α} (h : L word a) : OrEmpty L word a

theorem OrEmpty.mono [Inhabited α] {a : α} (hL : ∀ word a, L word a → L' word a)
    (h : OrEmpty L word a) : OrEmpty L' word a := by
  cases h with
  | null => exact .null
  | value h => exact .value (hL _ _ h)

theorem recognizes_orEmpty [Inhabited α] (h : Recognizes read L)
    (hnull : ∀ {word a}, L word a → word.head? ≠ some 'n') :
    Recognizes (readOrEmpty read) (OrEmpty L) where
  isValue := by
    rintro _ _ (_ | hword)
    · exact .null
    · exact h.isValue hword
  read_iff := by
    intro s a r
    rw [readOrEmpty, map_eq_ok]
    constructor
    · rintro ⟨⟨found, rest⟩, hread, hpair⟩
      obtain ⟨rfl, rfl⟩ := Prod.mk.inj hpair
      obtain ⟨gap, word, hgap, hword, hs⟩ := (h.optional hnull).read_iff.mp hread
      refine ⟨gap, word, hgap, ?_, hs⟩
      cases hword with
      | null => exact .null
      | value hword => exact .value hword
    · rintro ⟨gap, word, hgap, hword, hs⟩
      have hoptional : ∃ found, OrNull L word found ∧ found.getD default = a := by
        cases hword with
        | null => exact ⟨none, .null, rfl⟩
        | value hword => exact ⟨some a, .value hword, rfl⟩
      obtain ⟨found, hfound, rfl⟩ := hoptional
      exact ⟨(found, r), (h.optional hnull).read_iff.mpr ⟨gap, word, hgap, hfound, hs⟩, rfl⟩

theorem IsString.head? {text : String} (h : IsString word text) : word.head? = some '"' := by
  obtain ⟨body, -, rfl⟩ := h
  rfl

theorem recognizes_stringOrEmpty : Recognizes (readOrEmpty readString) (OrEmpty IsString) :=
  recognizes_orEmpty recognizes_string fun h => by
    rw [h.head?]
    decide

theorem recognizes_listOrEmpty (h : Recognizes read L) :
    Recognizes (readOrEmpty (readList read)) (OrEmpty (ListOf L)) :=
  recognizes_orEmpty (recognizes_list h) fun h => by
    rw [h.head?]
    decide

/-! ## Tags -/

/-- The value of a tag by its name. -/
def tagOf? (tags : List (String × α)) (name : String) : Option α :=
  (tags.find? (·.1 == name)).map Prod.snd

/-- A tag: its name, or an object with the name as its only key and null as its value. -/
inductive IsTag (tags : List (String × α)) : List Char → α → Prop where
  | bare {word : List Char} {name : String} {a : α} (h : IsString word name)
      (htag : tagOf? tags name = some a) : IsTag tags word a
  | object {word : List Char} {name : String} {a : α}
      (h : IsObject [(name, ['n', 'u', 'l', 'l'])] word) (htag : tagOf? tags name = some a) :
      IsTag tags word a

variable {tags : List (String × α)} {a : α} {name : String}

theorem tagValue_eq_ok :
    tagValue tags name s = .ok (a, r) ↔ tagOf? tags name = some a ∧ r = s := by
  rw [tagValue, tagOf?]
  cases tags.find? (·.1 == name) with
  | none => exact ⟨nofun, nofun⟩
  | some tag =>
    rw [Option.map_some, Option.some.injEq, Except.ok.injEq, Prod.mk.injEq]
    exact and_congr_right fun _ => eq_comm

theorem readNothing_eq_ok :
    readNothing s = .ok r ↔ ∃ gap, IsGap gap ∧ s = gap ++ ('n' :: 'u' :: 'l' :: 'l' :: r) := by
  rw [readNothing]
  constructor
  · intro h
    split at h
    · cases h
    · next c rest hskip =>
      obtain ⟨-, gap, hgap, rfl⟩ := skipBlanks_eq_cons.mp hskip
      split at h
      · next hn =>
        refine ⟨gap, hgap, ?_⟩
        rw [hn, readIdent_eq_ok.mp h]
        rfl
      · exact absurd h wrongType_ne_ok
  · rintro ⟨gap, hgap, rfl⟩
    rw [skipBlanks_gap_cons hgap (by decide)]
    exact readIdent_eq_ok.mpr rfl

/-- What stands between the brackets of a tag that is written as an object. -/
theorem isObject_tag : IsObject [(name, ['n', 'u', 'l', 'l'])] word ↔
    ∃ gap key gap₁ gap₂ gap₃, IsGap gap ∧ Spells key name.toList ∧ IsGap gap₁ ∧ IsGap gap₂ ∧
      IsGap gap₃ ∧ word = '\x7b' :: (gap ++ '"' :: (key ++ '"' :: (gap₁ ++ ':' ::
        (gap₂ ++ ('n' :: 'u' :: 'l' :: 'l' :: (gap₃ ++ ['\x7d'])))))) := by
  constructor
  · rintro ⟨_, _ | ⟨hgap, ⟨hgap', hkey, hgap₁, hgap₂, -⟩, ⟨hgap₃⟩⟩, rfl⟩
    refine ⟨_, _, _, _, _, hgap.append hgap', hkey, hgap₁, hgap₂, hgap₃, ?_⟩
    simp only [lead, if_true, List.append_assoc, List.cons_append, List.nil_append]
  · rintro ⟨gap, key, gap₁, gap₂, gap₃, hgap, hkey, hgap₁, hgap₂, hgap₃, rfl⟩
    refine ⟨_, .cons isGap_nil (.intro hgap hkey hgap₁ hgap₂ .null) (.nil hgap₃), ?_⟩
    simp only [lead, if_true, List.append_assoc, List.cons_append, List.nil_append]

theorem recognizes_tag (tags : List (String × α)) : Recognizes (readTag tags) (IsTag tags) where
  isValue := by
    intro word a hword
    cases hword with
    | bare h => exact h.isValue
    | object h => exact h.isValue
  read_iff := by
    intro s a r
    rw [readTag]
    constructor
    · intro hread
      split at hread
      · cases hread
      · next c rest hskip =>
        obtain ⟨-, gap, hgap, rfl⟩ := skipBlanks_eq_cons.mp hskip
        split_ifs at hread with hquote hbrace
        · obtain ⟨⟨name, rest'⟩, hname, hfound⟩ := bind_eq_ok.mp hread
          obtain ⟨htag, rfl⟩ := tagValue_eq_ok.mp hfound
          obtain ⟨body, hbody, rfl⟩ := readStringBody_eq_ok.mp hname
          refine ⟨gap, _, hgap, .bare ⟨body, hbody, rfl⟩ htag, ?_⟩
          simp only [hquote, List.append_assoc, List.cons_append, List.nil_append]
        · split at hread
          · cases hread
          · next d rest' hskip' =>
            obtain ⟨-, gap₀, hgap₀, rfl⟩ := skipBlanks_eq_cons.mp hskip'
            split_ifs at hread with hquote' hend
            · obtain ⟨⟨name, rest₁⟩, hname, hread₁⟩ := bind_eq_ok.mp hread
              obtain ⟨⟨v, rest₂⟩, hfound, hread₂⟩ := bind_eq_ok.mp hread₁
              obtain ⟨rest₃, hbehind, hread₃⟩ := bind_eq_ok.mp hread₂
              obtain ⟨rest₄, hcolon, hnull⟩ := bind_eq_ok.mp hbehind
              obtain ⟨htag, rfl⟩ := tagValue_eq_ok.mp hfound
              obtain ⟨body, hbody, rfl⟩ := readStringBody_eq_ok.mp hname
              obtain ⟨gap₁, hgap₁, rfl⟩ := readColon_eq_ok.mp hcolon
              obtain ⟨gap₂, hgap₂, rfl⟩ := readNothing_eq_ok.mp hnull
              split at hread₃
              · cases hread₃
              · next e rest₅ hskip₃ =>
                obtain ⟨-, gap₃, hgap₃, rfl⟩ := skipBlanks_eq_cons.mp hskip₃
                split_ifs at hread₃ with hclose
                · obtain ⟨rfl, rfl⟩ := Prod.mk.inj (Except.ok.inj hread₃)
                  have hobject := isObject_tag.mpr
                    ⟨gap₀, body, gap₁, gap₂, gap₃, hgap₀, hbody, hgap₁, hgap₂, hgap₃, rfl⟩
                  refine ⟨gap, _, hgap, .object hobject htag, ?_⟩
                  simp only [hbrace, hquote', hclose, List.append_assoc, List.cons_append,
                    List.nil_append]
                · cases hread₃
            · cases hread
            · cases hread
        · cases hread
    · rintro ⟨gap, word, hgap, hword, rfl⟩
      cases hword with
      | @bare _ name h htag =>
        obtain ⟨body, hbody, rfl⟩ := h
        rw [List.cons_append, skipBlanks_gap_cons hgap (by decide)]
        dsimp only
        rw [if_pos rfl]
        refine bind_eq_ok.mpr ⟨(_, r), readStringBody_eq_ok.mpr ⟨body, hbody, ?_⟩, ?_⟩
        · rw [List.append_assoc, List.singleton_append]
        · exact tagValue_eq_ok.mpr ⟨htag, rfl⟩
      | @object _ name h htag =>
        obtain ⟨gap₀, body, gap₁, gap₂, gap₃, hgap₀, hbody, hgap₁, hgap₂, hgap₃, rfl⟩ :=
          isObject_tag.mp h
        simp only [List.append_assoc, List.cons_append, List.nil_append]
        rw [skipBlanks_gap_cons hgap (by decide)]
        dsimp only
        rw [if_neg (by decide), if_pos rfl, skipBlanks_gap_cons hgap₀ (by decide)]
        dsimp only
        rw [if_pos rfl]
        refine bind_eq_ok.mpr ⟨(_, _), readStringBody_eq_ok.mpr ⟨body, hbody, rfl⟩, ?_⟩
        refine bind_eq_ok.mpr ⟨(a, _), tagValue_eq_ok.mpr ⟨htag, rfl⟩, ?_⟩
        refine bind_eq_ok.mpr ⟨gap₃ ++ '\x7d' :: r, bind_eq_ok.mpr ⟨_, readColon_gap hgap₁ _,
          readNothing_eq_ok.mpr ⟨gap₂, hgap₂, rfl⟩⟩, ?_⟩
        rw [skipBlanks_gap_cons hgap₃ (by decide)]
        rfl

end ServiceStubs.Json
