import ServiceStubs.Json.Record
import ServiceStubs.Proofs.Json.Passing

/-!
# What readers recognize

A reader recognizes a language of values if it takes exactly its texts, wherever they stand and
whatever follows.  If the fields of a record are recognized, so is the record: as an object, its
keys in any order and unknown ones among them, or as a list that gives the fields in order.
-/

namespace ServiceStubs.Json

variable {α β σ : Type} {c : Char} {first : Bool} {fuel count : Nat}
variable {gap word value row s s' r rest : List Char}

theorem IsGap.append {gap' : List Char} (h : IsGap gap) (h' : IsGap gap') : IsGap (gap ++ gap') :=
  List.forall_mem_append.mpr ⟨h, h'⟩

/-- The reader takes the values of a language, with blanks before them, and nothing else. -/
structure Recognizes (read : Reader α) (L : List Char → α → Prop) : Prop where
  isValue : ∀ {word a}, L word a → IsValue word
  read_iff : ∀ {s a r},
    read s = .ok (a, r) ↔ ∃ gap word, IsGap gap ∧ L word a ∧ s = gap ++ (word ++ r)

theorem Recognizes.of_iff {read : Reader α} {L L' : List Char → α → Prop} (h : Recognizes read L)
    (hL : ∀ word a, L word a ↔ L' word a) : Recognizes read L' := by
  have heq : L = L' := funext fun word => funext fun a => propext (hL word a)
  rwa [← heq]

/-- A whole text is taken if there are only blanks around the value. -/
theorem Recognizes.readDocument_eq_ok {read : Reader α} {L : List Char → α → Prop}
    (h : Recognizes read L) {text : String} {a : α} :
    readDocument read text = .ok a ↔ IsDocument (L · a) text := by
  rw [readDocument]
  constructor
  · intro hread
    split at hread
    · cases hread
    · next b rest hvalue =>
      obtain ⟨gap, word, hgap, hword, htext⟩ := h.read_iff.mp hvalue
      split at hread
      · next hskip =>
        obtain rfl := Except.ok.inj hread
        exact ⟨gap, word, rest, hgap, hword, skipBlanks_eq_nil.mp hskip, htext⟩
      · cases hread
  · rintro ⟨gap, word, gap', hgap, hword, hgap', htext⟩
    rw [h.read_iff.mpr ⟨gap, word, hgap, hword, htext⟩]
    dsimp only
    rw [skipBlanks_eq_nil.mpr hgap']

/-! ## Strings and null -/

/-- A string that spells the text. -/
def IsString (word : List Char) (text : String) : Prop :=
  ∃ body, Spells body text.toList ∧ word = '"' :: (body ++ ['"'])

theorem IsString.isValue {text : String} (h : IsString word text) : IsValue word := by
  obtain ⟨body, hbody, rfl⟩ := h
  exact .string hbody.isRaw

theorem wrongType_ne_ok {expected : String} {a : α} :
    wrongType expected s ≠ .ok a := by
  intro h
  unfold wrongType at h
  split at h
  · cases h
  · split_ifs at h
    all_goals
      obtain ⟨found, -, hfail⟩ := bind_eq_ok.mp h
      cases hfail

theorem recognizes_string : Recognizes readString IsString where
  isValue h := h.isValue
  read_iff := by
    intro s text r
    rw [readString]
    constructor
    · intro h
      split at h
      · cases h
      · next c rest hskip =>
        obtain ⟨-, gap, hgap, rfl⟩ := skipBlanks_eq_cons.mp hskip
        split at h
        · next hquote =>
          obtain ⟨body, hbody, rfl⟩ := readStringBody_eq_ok.mp h
          refine ⟨gap, _, hgap, ⟨body, hbody, rfl⟩, ?_⟩
          simp only [hquote, List.append_assoc, List.cons_append, List.nil_append]
        · exact absurd h wrongType_ne_ok
    · rintro ⟨gap, _, hgap, ⟨body, hbody, rfl⟩, rfl⟩
      rw [List.cons_append, skipBlanks_gap_cons hgap (by decide)]
      dsimp only
      rw [if_pos rfl]
      exact readStringBody_eq_ok.mpr ⟨body, hbody, List.append_assoc body _ _⟩

/-- Null, or a value of the language. -/
inductive OrNull (L : List Char → α → Prop) : List Char → Option α → Prop where
  | null : OrNull L ['n', 'u', 'l', 'l'] none
  | value {word : List Char} {a : α} (h : L word a) : OrNull L word (some a)

/-- A language without null can be read with null in addition. -/
theorem Recognizes.optional {read : Reader α} {L : List Char → α → Prop} (h : Recognizes read L)
    (hnull : ∀ {word a}, L word a → word.head? ≠ some 'n') :
    Recognizes (readOptional read) (OrNull L) where
  isValue := by
    intro word a hword
    cases hword with
    | null => exact .null
    | value hword => exact h.isValue hword
  read_iff := by
    intro s a r
    rw [readOptional]
    constructor
    · intro hread
      split at hread
      · cases hread
      · next c rest hskip =>
        obtain ⟨-, gap, hgap, rfl⟩ := skipBlanks_eq_cons.mp hskip
        split at hread
        · next hn =>
          obtain ⟨rest', hident, hpair⟩ := map_eq_ok.mp hread
          obtain ⟨rfl, rfl⟩ := Prod.mk.inj hpair
          exact ⟨gap, _, hgap, .null, by rw [hn, readIdent_eq_ok.mp hident]; rfl⟩
        · obtain ⟨⟨v, rest'⟩, hvalue, hpair⟩ := map_eq_ok.mp hread
          obtain ⟨rfl, rfl⟩ := Prod.mk.inj hpair
          obtain ⟨gap', word, hgap', hword, heq⟩ := h.read_iff.mp hvalue
          exact ⟨gap ++ gap', word, hgap.append hgap', .value hword, by rw [heq, List.append_assoc]⟩
    · rintro ⟨gap, word, hgap, hword, rfl⟩
      cases hword with
      | null =>
        rw [List.cons_append, skipBlanks_gap_cons hgap (by decide)]
        dsimp only
        rw [if_pos rfl]
        exact map_eq_ok.mpr ⟨r, readIdent_eq_ok.mpr rfl, rfl⟩
      | @value _ a hword =>
        have hread : read (word ++ r) = .ok (a, r) :=
          h.read_iff.mpr ⟨[], word, isGap_nil, hword, rfl⟩
        have hn := hnull hword
        rw [skipBlanks_value hgap (h.isValue hword)]
        obtain ⟨c, rest, rfl, -⟩ := (h.isValue hword).starts
        rw [List.cons_append] at hread
        rw [List.cons_append]
        dsimp only
        rw [if_neg fun hc => hn (congrArg some hc)]
        exact map_eq_ok.mpr ⟨_, hread, rfl⟩

/-- A setting: null or a string. -/
abbrev IsSetting : List Char → Option String → Prop := OrNull IsString

theorem recognizes_setting : Recognizes (readOptional readString) IsSetting :=
  recognizes_string.optional fun ⟨_, _, hword⟩ hn => by
    rw [hword] at hn
    exact absurd (Option.some.inj hn) (by decide)

/-- A field stores what its reader gives. -/
theorem Recognizes.field {read : Reader α} {L : List Char → α → Prop} (h : Recognizes read L)
    (key : String) (required : Bool) (store : α → σ → σ) :
    Recognizes (Field.of key required read store).read
      (fun word set => ∃ a, L word a ∧ set = store a) where
  isValue := by
    rintro word set ⟨a, ha, -⟩
    exact h.isValue ha
  read_iff := by
    intro s set r
    constructor
    · intro hread
      obtain ⟨⟨a, rest⟩, hvalue, hpair⟩ := map_eq_ok.mp hread
      obtain ⟨rfl, rfl⟩ := Prod.mk.inj hpair
      obtain ⟨gap, word, hgap, hword, heq⟩ := h.read_iff.mp hvalue
      exact ⟨gap, word, hgap, ⟨a, hword, rfl⟩, heq⟩
    · rintro ⟨gap, word, hgap, ⟨a, hword, rfl⟩, heq⟩
      exact map_eq_ok.mpr ⟨(a, r), h.read_iff.mpr ⟨gap, word, hgap, hword, heq⟩, rfl⟩

/-! ## Commas, keys and ends -/

theorem placed_eq_ok {x : Except Failure α} {a : α} : placed x = .ok a ↔ x = .ok a := by
  cases x with
  | error f => exact ⟨nofun, nofun⟩
  | ok b => simp [placed]

theorem nextKey_gap (hgap : IsGap gap) (s : List Char) :
    nextKey first (gap ++ s) = nextKey first s := by
  rw [nextKey, skipBlanks_append hgap]
  rfl

theorem nextKey_cases {more : Bool} (h : nextKey first s = .ok (more, r)) :
    (more = false ∧ ∃ gap t, IsGap gap ∧ s = gap ++ '\x7d' :: t ∧ r = '\x7d' :: t) ∨
      more = true ∧ ∃ gap gap', IsGap gap ∧ IsGap gap' ∧
        s = gap ++ (lead first ++ (gap' ++ '"' :: r)) := by
  rw [nextKey] at h
  split at h
  · cases h
  · next c rest hskip =>
    obtain ⟨-, gap, hgap, rfl⟩ := skipBlanks_eq_cons.mp hskip
    split_ifs at h with hend hfirst hquote hcomma
    · obtain ⟨rfl, rfl⟩ := Prod.mk.inj (Except.ok.inj h)
      exact .inl ⟨rfl, gap, rest, hgap, by rw [hend], by rw [hend]⟩
    · obtain ⟨rfl, rfl⟩ := Prod.mk.inj (Except.ok.inj h)
      exact .inr ⟨rfl, gap, [], hgap, isGap_nil, by rw [hfirst, hquote]; rfl⟩
    · cases h
    · split at h
      · cases h
      · next d rest' hskip' =>
        obtain ⟨-, gap', hgap', rfl⟩ := skipBlanks_eq_cons.mp hskip'
        split_ifs at h with hquote hend'
        · obtain ⟨rfl, rfl⟩ := Prod.mk.inj (Except.ok.inj h)
          rw [Bool.not_eq_true] at hfirst
          exact .inr ⟨rfl, gap, gap', hgap, hgap', by rw [hfirst, hcomma, hquote]; rfl⟩
        · cases h
        · cases h
    · cases h

theorem nextItem_gap (hgap : IsGap gap) (s : List Char) :
    nextItem first (gap ++ s) = nextItem first s := by
  rw [nextItem, skipBlanks_append hgap]
  rfl

theorem nextItem_cases {more : Bool} (h : nextItem first s = .ok (more, r)) :
    (more = false ∧ ∃ gap t, IsGap gap ∧ s = gap ++ ']' :: t ∧ r = ']' :: t) ∨
      more = true ∧ ∃ gap gap', IsGap gap ∧ IsGap gap' ∧
        s = gap ++ (lead first ++ (gap' ++ r)) := by
  rw [nextItem] at h
  split at h
  · cases h
  · next c rest hskip =>
    obtain ⟨-, gap, hgap, rfl⟩ := skipBlanks_eq_cons.mp hskip
    split_ifs at h with hend hfirst hcomma
    · obtain ⟨rfl, rfl⟩ := Prod.mk.inj (Except.ok.inj h)
      exact .inl ⟨rfl, gap, rest, hgap, by rw [hend], by rw [hend]⟩
    · obtain ⟨rfl, rfl⟩ := Prod.mk.inj (Except.ok.inj h)
      exact .inr ⟨rfl, gap, [], hgap, isGap_nil, by rw [hfirst]; rfl⟩
    · split at h
      · cases h
      · next d rest' hskip' =>
        obtain ⟨-, gap', hgap', rfl⟩ := skipBlanks_eq_cons.mp hskip'
        split_ifs at h
        · cases h
        · obtain ⟨rfl, rfl⟩ := Prod.mk.inj (Except.ok.inj h)
          rw [Bool.not_eq_true] at hfirst
          exact .inr ⟨rfl, gap, gap', hgap, hgap', by rw [hfirst, hcomma]; rfl⟩
    · cases h

theorem nextItem_value (h : IsValue value) (hgap : IsGap gap) (rest : List Char) :
    nextItem first (lead first ++ (gap ++ (value ++ rest))) = .ok (true, value ++ rest) := by
  have hskip := skipBlanks_value hgap h rest
  obtain ⟨c, t, rfl, hc⟩ := h.starts
  have hend : c ≠ ']' := by
    simp only [startsValue, Bool.and_eq_true, bne_iff_ne] at hc
    exact hc.1.2
  cases first with
  | true =>
    show nextItem true (gap ++ (c :: t ++ rest)) = _
    rw [nextItem, hskip]
    simp only [List.cons_append, if_neg hend, if_pos]
  | false =>
    show nextItem false (',' :: (gap ++ (c :: t ++ rest))) = _
    rw [nextItem, skipBlanks_cons (by decide)]
    dsimp only
    rw [if_neg (by decide), if_neg Bool.false_ne_true, if_pos rfl, hskip]
    simp only [List.cons_append, if_neg hend]

theorem closeArray_eq_ok :
    Shape.closeArray s = .ok r ↔ ∃ gap, IsGap gap ∧ s = gap ++ ']' :: r := by
  rw [Shape.closeArray]
  constructor
  · intro h
    split at h
    · cases h
    · next c rest hskip =>
      obtain ⟨-, gap, hgap, rfl⟩ := skipBlanks_eq_cons.mp hskip
      split_ifs at h with hend hcomma
      · obtain rfl := Except.ok.inj h
        exact ⟨gap, hgap, by rw [hend]⟩
      · split at h
        · cases h
        · cases h
      · cases h
  · rintro ⟨gap, hgap, rfl⟩
    rw [skipBlanks_gap_cons hgap (by decide)]
    rfl

/-! ## Records -/

namespace Shape

variable {shape : Shape σ} {holds : String → List Char → (σ → σ) → Prop}
variable {seen : List String} {record record' : σ} {fields : List (Field σ)}
variable {members : List (String × List Char)} {values : List (List Char)}

/-- What the members of an object make of a record, one by one: a value of a known key, which must
not have been seen, is stored, and any value of another key is passed over.  In the end no required
key may be missing. -/
inductive Stores (shape : Shape σ) (holds : String → List Char → (σ → σ) → Prop) :
    List String → σ → List (String × List Char) → σ → Prop where
  | done {seen : List String} {record : σ}
      (h : ∀ f ∈ shape.fields, f.required = true → f.key ∈ seen) :
      Stores shape holds seen record [] record
  | other {seen : List String} {record record' : σ} {key : String} {value : List Char}
      {members : List (String × List Char)} (hkey : key ∉ shape.fields.map Field.key)
      (hrest : Stores shape holds seen record members record') :
      Stores shape holds seen record ((key, value) :: members) record'
  | field {seen : List String} {record record' : σ} {key : String} {value : List Char}
      {members : List (String × List Char)} {set : σ → σ} (hkey : key ∈ shape.fields.map Field.key)
      (hnew : key ∉ seen) (hvalue : holds key value set)
      (hrest : Stores shape holds (key :: seen) (set record) members record') :
      Stores shape holds seen record ((key, value) :: members) record'

/-- What the values of a list make of a record: each is stored for the next field.  Fields that are
left without a value must not be required. -/
inductive StoresInOrder (holds : String → List Char → (σ → σ) → Prop) :
    List (Field σ) → σ → List (List Char) → σ → Prop where
  | done {fields : List (Field σ)} {record : σ} (h : ∀ f ∈ fields, f.required = false) :
      StoresInOrder holds fields record [] record
  | field {f : Field σ} {fields : List (Field σ)} {record record' : σ} {value : List Char}
      {values : List (List Char)} {set : σ → σ} (hvalue : holds f.key value set)
      (hrest : StoresInOrder holds fields (set record) values record') :
      StoresInOrder holds (f :: fields) record (value :: values) record'

theorem firstMissing?_eq_none :
    shape.firstMissing? seen = none ↔ ∀ f ∈ shape.fields, f.required = true → f.key ∈ seen := by
  rw [firstMissing?, Option.map_eq_none_iff, List.find?_eq_none]
  refine forall₂_congr fun f _ => ?_
  cases f.required with
  | false => simp
  | true => simp

theorem find?_eq_none {key : String} :
    shape.fields.find? (·.key == key) = none ↔ key ∉ shape.fields.map Field.key := by
  rw [List.find?_eq_none, List.mem_map]
  simp

/-! ### Members of an object -/

variable (hfields : ∀ f ∈ shape.fields, Recognizes f.read (holds f.key))
include hfields

theorem exists_stores (h : shape.readMembers fuel first seen record s = .ok (record', s')) :
    ∃ members row r, Row IsMember first members row ∧
      shape.Stores holds seen record members record' ∧ s = row ++ '\x7d' :: r ∧
        s' = '\x7d' :: r := by
  induction fuel generalizing first seen record s with
  | zero => cases h
  | succ fuel ih =>
    rw [readMembers, bind_eq_ok] at h
    obtain ⟨⟨more, s₁⟩, hnext, h⟩ := h
    rcases nextKey_cases (placed_eq_ok.mp hnext) with ⟨rfl, gap, t, hgap, rfl, rfl⟩ |
      ⟨rfl, gap, gap', hgap, hgap', rfl⟩
    · dsimp only at h
      rw [if_neg Bool.false_ne_true] at h
      split at h
      · cases h
      · next hmissing =>
        obtain ⟨rfl, rfl⟩ := Prod.mk.inj (Except.ok.inj h)
        exact ⟨[], gap, t, .nil hgap, .done (firstMissing?_eq_none.mp hmissing), rfl, rfl⟩
    · dsimp only at h
      rw [if_pos rfl, bind_eq_ok] at h
      obtain ⟨⟨key, s₂⟩, hkey, h⟩ := h
      obtain ⟨word, hword, rfl⟩ := readStringBody_eq_ok.mp (placed_eq_ok.mp hkey)
      dsimp only at h
      split at h
      · next hfind =>
        obtain ⟨s₃, hplaced, hrest⟩ := bind_eq_ok.mp h
        obtain ⟨s₄, hcolon, hskip⟩ := bind_eq_ok.mp (placed_eq_ok.mp hplaced)
        obtain ⟨gap₂, hgap₂, rfl⟩ := readColon_eq_ok.mp hcolon
        obtain ⟨gap₃, value, hgap₃, hvalue, rfl⟩ := exists_value hskip
        obtain ⟨members, row, r, hrow, hstores, rfl, rfl⟩ := ih hrest
        refine ⟨_, _, r, .cons hgap (.intro hgap' hword hgap₂ hgap₃ hvalue) hrow,
          .other (find?_eq_none.mp hfind) hstores, ?_, rfl⟩
        simp only [List.append_assoc, List.cons_append]
      · next f hfind =>
        split at h
        · cases h
        · next hnew =>
          obtain ⟨⟨set, s₃⟩, hplaced, hrest⟩ := bind_eq_ok.mp h
          obtain ⟨s₄, hcolon, hread⟩ := bind_eq_ok.mp (placed_eq_ok.mp hplaced)
          obtain ⟨gap₂, hgap₂, rfl⟩ := readColon_eq_ok.mp hcolon
          have hmem := List.mem_of_find?_eq_some hfind
          obtain rfl : f.key = key := by simpa using List.find?_some hfind
          obtain ⟨gap₃, value, hgap₃, hholds, rfl⟩ := (hfields f hmem).read_iff.mp hread
          obtain ⟨members, row, r, hrow, hstores, rfl, rfl⟩ := ih hrest
          have hvalue := (hfields f hmem).isValue hholds
          have hkey : f.key ∉ seen := by simpa using hnew
          refine ⟨_, _, r, .cons hgap (.intro hgap' hword hgap₂ hgap₃ hvalue) hrow,
            .field (List.mem_map_of_mem hmem) hkey hholds hstores, ?_, rfl⟩
          simp only [List.append_assoc, List.cons_append]

omit hfields in
/-- One round, up to behind a key. -/
theorem readMembers_key {gap₁ : List Char} {key : String} (hgap : IsGap gap) (hgap₁ : IsGap gap₁)
    (hword : Spells word key.toList) (s : List Char) :
    shape.readMembers (fuel + 1) first seen record
        (gap ++ (lead first ++ (gap₁ ++ '"' :: (word ++ '"' :: s)))) =
      match shape.fields.find? (·.key == key) with
      | none => placed (readColon s >>= skipValue) >>= shape.readMembers fuel false seen record
      | some field =>
        if seen.contains key then .error (.unplaced (.duplicateField key) s)
        else placed (readColon s >>= field.read) >>= fun p =>
          shape.readMembers fuel false (key :: seen) (p.1 record) p.2 := by
  rw [readMembers, nextKey_gap hgap, nextKey_lead first hgap₁]
  show (placed (readStringBody _) >>= _) = _
  rw [readStringBody_eq_ok.mpr ⟨word, hword, rfl⟩]
  rfl

theorem readMembers_stores (hstores : shape.Stores holds seen record members record')
    (hrow : Row IsMember first members row) (hfuel : members.length < fuel) (r : List Char) :
    shape.readMembers fuel first seen record (row ++ '\x7d' :: r) = .ok (record', '\x7d' :: r) := by
  induction hstores generalizing first row fuel with
  | done h =>
    obtain ⟨fuel, rfl⟩ := Nat.exists_eq_add_one_of_ne_zero (Nat.ne_of_gt hfuel)
    cases hrow with
    | nil hgap =>
      rw [readMembers, nextKey_end first hgap]
      simp only [placed, bind, Except.bind, firstMissing?_eq_none.mpr h]
      rfl
  | other hkey _ ih =>
    obtain ⟨fuel, rfl⟩ : ∃ n, fuel = n + 1 := ⟨fuel - 1, by omega⟩
    obtain _ | ⟨hgap, ⟨hgap₁, hword, hgap₂, hgap₃, hvalue⟩, htail⟩ := hrow
    have hrest := ih htail (Nat.lt_of_succ_lt_succ hfuel)
    have hskip := skipValue_append hgap₃ hvalue (htail.derives_members.stops r)
    simp only [List.append_assoc, List.cons_append]
    rw [readMembers_key hgap hgap₁ hword, find?_eq_none.mpr hkey]
    refine bind_eq_ok.mpr ⟨_, placed_eq_ok.mpr ?_, hrest⟩
    exact bind_eq_ok.mpr ⟨_, readColon_gap hgap₂ _, hskip⟩
  | @field seen record record' key value members set hkey hnew hholds _ ih =>
    obtain ⟨fuel, rfl⟩ : ∃ n, fuel = n + 1 := ⟨fuel - 1, by omega⟩
    obtain _ | ⟨hgap, ⟨hgap₁, hword, hgap₂, hgap₃, hvalue⟩, htail⟩ := hrow
    have hrest := ih htail (Nat.lt_of_succ_lt_succ hfuel)
    have hfound : (shape.fields.find? (·.key == key)).isSome = true := by
      rw [Option.isSome_iff_ne_none]
      exact fun hnone => find?_eq_none.mp hnone hkey
    obtain ⟨f, hfind⟩ := Option.isSome_iff_exists.mp hfound
    obtain rfl : f.key = key := by simpa using List.find?_some hfind
    have hrecognizes := hfields f (List.mem_of_find?_eq_some hfind)
    simp only [List.append_assoc, List.cons_append]
    rw [readMembers_key hgap hgap₁ hword, hfind]
    dsimp only
    rw [if_neg (by simpa using hnew)]
    refine bind_eq_ok.mpr ⟨(set, _), placed_eq_ok.mpr ?_, hrest⟩
    refine bind_eq_ok.mpr ⟨_, readColon_gap hgap₂ _, ?_⟩
    exact hrecognizes.read_iff.mpr ⟨_, value, hgap₃, hholds, rfl⟩

/-! ### Values of a list -/

omit hfields

/-- Once the end of the list is seen, no value is read. -/
theorem readPositions_end :
    shape.readPositions fields first count record (']' :: s) = .ok (record', s') ↔
      (∀ f ∈ fields, f.required = false) ∧ record' = record ∧ s' = ']' :: s := by
  induction fields generalizing count with
  | nil =>
    rw [readPositions, Except.ok.injEq, Prod.mk.injEq]
    exact ⟨fun h => ⟨List.forall_mem_nil _, h.1.symm, h.2.symm⟩, fun h => ⟨h.2.1.symm, h.2.2.symm⟩⟩
  | cons f fields ih =>
    have hnext : nextItem first (']' :: s) = .ok (false, ']' :: s) := nextItem_end first isGap_nil s
    rw [readPositions, hnext, List.forall_mem_cons]
    show (if f.required = true then _ else _) = _ ↔ _
    cases f.required with
    | true => exact ⟨nofun, nofun⟩
    | false => simp only [Bool.false_eq_true, if_false, ih, true_and]

theorem exists_storesInOrder (hfields : ∀ f ∈ fields, Recognizes f.read (holds f.key))
    (h : shape.readPositions fields first count record s = .ok (record', s'))
    (hclose : closeArray s' = .ok r) :
    ∃ values row, Row IsItem first values row ∧ StoresInOrder holds fields record values record' ∧
      s = row ++ ']' :: r := by
  induction fields generalizing first count record s with
  | nil =>
    obtain ⟨rfl, rfl⟩ := Prod.mk.inj (Except.ok.inj h)
    obtain ⟨gap, hgap, rfl⟩ := closeArray_eq_ok.mp hclose
    exact ⟨[], gap, .nil hgap, .done (List.forall_mem_nil _), rfl⟩
  | cons f fields ih =>
    obtain ⟨hf, hfields⟩ := List.forall_mem_cons.mp hfields
    rw [readPositions, bind_eq_ok] at h
    obtain ⟨⟨more, s₁⟩, hnext, h⟩ := h
    rcases nextItem_cases (placed_eq_ok.mp hnext) with ⟨rfl, gap, t, hgap, rfl, rfl⟩ |
      ⟨rfl, gap, gap', hgap, hgap', rfl⟩
    · dsimp only at h
      rw [if_neg Bool.false_ne_true] at h
      split at h
      · cases h
      · next hrequired =>
        obtain ⟨hall, rfl, rfl⟩ := readPositions_end.mp h
        obtain rfl : t = r := Except.ok.inj hclose
        exact ⟨[], gap, .nil hgap, .done (List.forall_mem_cons.mpr
          ⟨by simpa using hrequired, hall⟩), rfl⟩
    · dsimp only at h
      rw [if_pos rfl, bind_eq_ok] at h
      obtain ⟨⟨set, s₂⟩, hplaced, hrest⟩ := h
      obtain ⟨gap₂, value, hgap₂, hholds, rfl⟩ := hf.read_iff.mp (placed_eq_ok.mp hplaced)
      obtain ⟨values, row, hrow, hstores, rfl⟩ := ih hfields hrest
      refine ⟨_, _, .cons hgap (.intro (hgap'.append hgap₂) (hf.isValue hholds)) hrow,
        .field hholds hstores, ?_⟩
      simp only [List.append_assoc]

theorem readPositions_stores (hfields : ∀ f ∈ fields, Recognizes f.read (holds f.key))
    (hstores : StoresInOrder holds fields record values record')
    (hrow : Row IsItem first values row) (r : List Char) :
    ∃ s', shape.readPositions fields first count record (row ++ ']' :: r) = .ok (record', s') ∧
      closeArray s' = .ok r := by
  induction hstores generalizing first row count with
  | @done fields record h =>
    obtain ⟨hgap⟩ := hrow
    cases fields with
    | nil => exact ⟨_, rfl, closeArray_eq_ok.mpr ⟨_, hgap, rfl⟩⟩
    | cons f fields =>
      refine ⟨']' :: r, ?_, rfl⟩
      show (placed (nextItem first (row ++ ']' :: r)) >>= _) = _
      rw [nextItem_gap hgap]
      exact readPositions_end.mpr ⟨h, rfl, rfl⟩
  | @field f fields record record' value values set hholds _ ih =>
    obtain ⟨hf, hfields⟩ := List.forall_mem_cons.mp hfields
    obtain _ | ⟨hgap, ⟨hgap', hvalue⟩, htail⟩ := hrow
    obtain ⟨s', hrest, hclose⟩ := ih hfields htail
    refine ⟨s', ?_, hclose⟩
    simp only [List.append_assoc]
    rw [readPositions, nextItem_gap hgap, nextItem_value hvalue hgap']
    show (placed (f.read _) >>= fun p => readPositions shape fields false (count + 1) (p.1 record)
      p.2) = _
    refine bind_eq_ok.mpr ⟨(set, _), placed_eq_ok.mpr ?_, hrest⟩
    exact hf.read_iff.mpr ⟨[], value, isGap_nil, hholds, rfl⟩

/-! ### Both forms -/

/-- What a text holds as a record: as an object, or as a list. -/
inductive Reads (shape : Shape σ) (holds : String → List Char → (σ → σ) → Prop) :
    List Char → σ → Prop where
  | object {word : List Char} {record : σ} {members : List (String × List Char)}
      (h : IsObject members word) (hstores : shape.Stores holds [] shape.blank members record) :
      Reads shape holds word record
  | list {word : List Char} {record : σ} {values : List (List Char)} (h : IsList values word)
      (hstores : StoresInOrder holds shape.fields shape.blank values record) :
      Reads shape holds word record

/-- A record is recognized if its fields are. -/
theorem recognizes_read (hfields : ∀ f ∈ shape.fields, Recognizes f.read (holds f.key)) :
    Recognizes shape.read (shape.Reads holds) where
  isValue := by
    intro word record h
    cases h with
    | object h => exact h.isValue
    | list h => exact h.isValue
  read_iff := by
    intro s record r
    rw [read]
    constructor
    · intro h
      split at h
      · cases h
      · next c rest hskip =>
        obtain ⟨-, gap, hgap, rfl⟩ := skipBlanks_eq_cons.mp hskip
        split_ifs at h with hobject hlist
        · split at h
          · next hmembers =>
            obtain ⟨members, row, t, hrow, hstores, rfl, rfl⟩ := exists_stores hfields hmembers
            obtain ⟨rfl, rfl⟩ := Prod.mk.inj (Except.ok.inj h)
            refine ⟨gap, _, hgap, .object ⟨row, hrow, rfl⟩ hstores, ?_⟩
            simp only [hobject, List.append_assoc, List.cons_append, List.nil_append,
              List.drop_succ_cons, List.drop_zero]
          · cases h
          · cases h
        · split at h
          · next hpositions =>
            obtain ⟨r', hclose, hpair⟩ := map_eq_ok.mp h
            obtain ⟨rfl, rfl⟩ := Prod.mk.inj hpair
            obtain ⟨values, row, hrow, hstores, rfl⟩ :=
              exists_storesInOrder hfields hpositions hclose
            refine ⟨gap, _, hgap, .list ⟨row, hrow, rfl⟩ hstores, ?_⟩
            simp only [hlist, List.append_assoc, List.cons_append, List.nil_append]
          · cases h
          · cases h
        · exact absurd h wrongType_ne_ok
    · rintro ⟨gap, word, hgap, hword, rfl⟩
      cases hword with
      | @object members h hstores =>
        obtain ⟨row, hrow, rfl⟩ := h
        have hlength := hrow.length_le fun _ _ => IsMember.length_pos
        have hfuel : members.length < (row ++ '\x7d' :: r).length + 1 := by
          rw [List.length_append]
          omega
        rw [List.cons_append, List.append_assoc, List.singleton_append,
          skipBlanks_gap_cons hgap (by decide)]
        dsimp only
        rw [if_pos rfl, readMembers_stores hfields hstores hrow hfuel r]
        rfl
      | list h hstores =>
        obtain ⟨row, hrow, rfl⟩ := h
        obtain ⟨s', hread, hclose⟩ := readPositions_stores hfields hstores hrow r
        rw [List.cons_append, List.append_assoc, List.singleton_append,
          skipBlanks_gap_cons hgap (by decide)]
        dsimp only
        rw [if_neg (by decide), if_pos rfl, hread]
        exact map_eq_ok.mpr ⟨r, hclose, rfl⟩

end Shape

end ServiceStubs.Json
