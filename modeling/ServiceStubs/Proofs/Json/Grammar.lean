import ServiceStubs.Json.Skip
import ServiceStubs.Proofs.Json.Reading

/-!
# The grammar of JSON

Here the grammar is given as relations on texts, apart from the readers: strings and what they
spell, numbers, and values of any depth.  What stands between the brackets of a container is a row:
its items have commas between them, and blanks may stand around each.
-/

namespace ServiceStubs.Json

variable {c d : Char} {n : Nat} {gap digits word cs tail rest : List Char} {list first : Bool}

/-! ## Strings -/

/-- Four hexadecimal digits and the number that they write. -/
inductive IsHex4 : List Char → Nat → Prop where
  | intro {a b c d : Char} {i j k l : Nat} (ha : hexValue? a = some i) (hb : hexValue? b = some j)
      (hc : hexValue? c = some k) (hd : hexValue? d = some l) :
      IsHex4 [a, b, c, d] (((i * 16 + j) * 16 + k) * 16 + l)

/-- The character may stand between quotes as it is. -/
structure IsUnescaped (c : Char) : Prop where
  not_quote : c ≠ '"'
  not_backslash : c ≠ '\\'
  not_control : ¬ c.toNat < 0x20

/-- What follows a backslash, and the character that it stands for. -/
inductive IsEscape : List Char → Char → Prop where
  | letter {letter c : Char} (h : escapeChar? letter = some c) : IsEscape [letter] c
  | unit {digits : List Char} {n : Nat} (h : IsHex4 digits n) (hleading : isLeading n = false)
      (htrailing : isTrailing n = false) : IsEscape ('u' :: digits) (Char.ofNat n)
  | pair {digits digits' : List Char} {n m : Nat} (h : IsHex4 digits n)
      (hleading : isLeading n = true) (h' : IsHex4 digits' m) (htrailing : isTrailing m = true) :
      IsEscape ('u' :: (digits ++ '\\' :: 'u' :: digits'))
        (Char.ofNat (0x10000 + (n - 0xD800) * 0x400 + (m - 0xDC00)))

/-- What stands between quotes, and the text that it spells. -/
inductive Spells : List Char → List Char → Prop where
  | nil : Spells [] []
  | plain {c : Char} {word cs : List Char} (h : IsUnescaped c) (hrest : Spells word cs) :
      Spells (c :: word) (c :: cs)
  | escape {c : Char} {escape word cs : List Char} (h : IsEscape escape c)
      (hrest : Spells word cs) : Spells ('\\' :: (escape ++ word)) (c :: cs)

/-- What may stand between quotes where the text does not matter: a numeric escape need not be a
character, nor half of a pair. -/
inductive IsRaw : List Char → Prop where
  | nil : IsRaw []
  | plain {c : Char} {word : List Char} (h : IsUnescaped c) (hrest : IsRaw word) : IsRaw (c :: word)
  | letter {letter c : Char} {word : List Char} (h : escapeChar? letter = some c)
      (hrest : IsRaw word) : IsRaw ('\\' :: letter :: word)
  | unit {digits word : List Char} {n : Nat} (h : IsHex4 digits n) (hrest : IsRaw word) :
      IsRaw ('\\' :: 'u' :: (digits ++ word))

theorem Spells.isRaw (h : Spells word cs) : IsRaw word := by
  induction h with
  | nil => exact .nil
  | plain h _ ih => exact .plain h ih
  | escape h _ ih =>
    cases h with
    | letter h => exact .letter h ih
    | unit h => exact .unit h ih
    | pair h _ h' =>
      rw [List.cons_append, List.append_assoc]
      exact .unit h (.unit h' ih)

/-! ## Numbers -/

/-- One or more digits. -/
def IsDigits (word : List Char) : Prop := word ≠ [] ∧ ∀ c ∈ word, c.isDigit = true

/-- A zero, or digits that do not begin with one. -/
inductive IsWhole : List Char → Prop where
  | zero : IsWhole ['0']
  | digits {c : Char} {digits : List Char} (h : IsDigits (c :: digits)) (hzero : c ≠ '0') :
      IsWhole (c :: digits)

/-- Nothing, or a point and digits. -/
inductive IsFraction : List Char → Prop where
  | none : IsFraction []
  | point {digits : List Char} (h : IsDigits digits) : IsFraction ('.' :: digits)

/-- Nothing or one sign. -/
def IsSign (word : List Char) : Prop := word = [] ∨ word = ['+'] ∨ word = ['-']

/-- Nothing, or the letter of an exponent, a sign and digits. -/
inductive IsExponent : List Char → Prop where
  | none : IsExponent []
  | letter {c : Char} {sign digits : List Char} (hc : c = 'e' ∨ c = 'E') (hsign : IsSign sign)
      (h : IsDigits digits) : IsExponent (c :: (sign ++ digits))

/-- A number without a sign. -/
inductive IsNumber : List Char → Prop where
  | intro {whole fraction exponent : List Char} (hwhole : IsWhole whole)
      (hfraction : IsFraction fraction) (hexponent : IsExponent exponent) :
      IsNumber (whole ++ (fraction ++ exponent))

theorem IsNumber.starts (h : IsNumber word) : ∃ c rest, word = c :: rest ∧ c.isDigit = true := by
  obtain ⟨hwhole, -, -⟩ := h
  cases hwhole with
  | zero => exact ⟨'0', _, rfl, by decide⟩
  | digits h => exact ⟨_, _, rfl, h.2 _ List.mem_cons_self⟩

/-! ## Values -/

/-- The bracket that opens a list, or the one that opens an object. -/
def opening (list : Bool) : Char := if list then '[' else '\x7b'

/-- The bracket that closes it. -/
def closing (list : Bool) : Char := if list then ']' else '\x7d'

/-- A value, or what is left of the row in a container, which has its first item still to come or
not. -/
inductive Part where
  | value
  | row (list first : Bool)

/-- What stands before the value of an item: blanks, and in an object a key and a colon. -/
inductive IsHead : Bool → List Char → Prop where
  | item {gap : List Char} (h : IsGap gap) : IsHead true gap
  | key {gap word gap' gap'' : List Char} (h : IsGap gap) (hkey : IsRaw word) (h' : IsGap gap')
      (h'' : IsGap gap'') : IsHead false (gap ++ '"' :: (word ++ '"' :: (gap' ++ ':' :: gap'')))

/-- The text is of that part of the grammar. -/
inductive Derives : Part → List Char → Prop where
  | null : Derives .value ['n', 'u', 'l', 'l']
  | boolTrue : Derives .value ['t', 'r', 'u', 'e']
  | boolFalse : Derives .value ['f', 'a', 'l', 's', 'e']
  | string {word : List Char} (h : IsRaw word) : Derives .value ('"' :: (word ++ ['"']))
  | number {word : List Char} (h : IsNumber word) : Derives .value word
  | negative {word : List Char} (h : IsNumber word) : Derives .value ('-' :: word)
  | container {list : Bool} {row : List Char} (h : Derives (.row list true) row) :
      Derives .value (opening list :: (row ++ [closing list]))
  | close {list first : Bool} {gap : List Char} (h : IsGap gap) : Derives (.row list first) gap
  | item {list first : Bool} {gap head value tail : List Char} (hgap : IsGap gap)
      (hhead : IsHead list head) (hvalue : Derives .value value)
      (htail : Derives (.row list false) tail) :
      Derives (.row list first) (gap ++ (lead first ++ (head ++ (value ++ tail))))

/-- A value of any kind. -/
abbrev IsValue (text : List Char) : Prop := Derives .value text

/-- Neither a blank nor a character that has its place only between values. -/
def startsValue (c : Char) : Bool :=
  !isJsonBlank c && c != ',' && c != ']' && c != '\x7d'

theorem ne_of_isDigit (h : c.isDigit = true) (hd : d.isDigit = false) : c ≠ d := by
  rintro rfl
  rw [h] at hd
  cases hd

theorem startsValue_of_isDigit (h : c.isDigit = true) : startsValue c = true := by
  have hdigits : ([' ', '\n', '\t', '\r', ',', ']', '\x7d'].all fun d => !d.isDigit) = true := rfl
  have hne : ∀ d ∈ [' ', '\n', '\t', '\r', ',', ']', '\x7d'], c ≠ d := by
    intro d hd
    exact ne_of_isDigit h (by simpa using List.all_eq_true.mp hdigits d hd)
  simp only [List.forall_mem_cons, List.not_mem_nil, false_implies, implies_true] at hne
  simp [startsValue, isJsonBlank, hne]

theorem isJsonBlank_of_startsValue (h : startsValue c = true) : isJsonBlank c = false := by
  simp only [startsValue, Bool.and_eq_true, Bool.not_eq_true'] at h
  exact h.1.1.1

theorem Derives.starts (h : IsValue word) : ∃ c rest, word = c :: rest ∧ startsValue c = true := by
  cases h with
  | null => exact ⟨_, _, rfl, by decide⟩
  | boolTrue => exact ⟨_, _, rfl, by decide⟩
  | boolFalse => exact ⟨_, _, rfl, by decide⟩
  | string => exact ⟨_, _, rfl, by decide⟩
  | number h =>
    obtain ⟨c, rest, rfl, hc⟩ := h.starts
    exact ⟨c, rest, rfl, startsValue_of_isDigit hc⟩
  | negative => exact ⟨_, _, rfl, by decide⟩
  | @container list => exact ⟨_, _, rfl, by cases list <;> decide⟩

/-! ## Rows -/

/-- Items in a row, up to the bracket that closes it: blanks may stand before each comma and before
the end. -/
inductive Row {β : Type} (P : β → List Char → Prop) : Bool → List β → List Char → Prop where
  | nil {first : Bool} {gap : List Char} (h : IsGap gap) : Row P first [] gap
  | cons {first : Bool} {b : β} {bs : List β} {gap item tail : List Char} (hgap : IsGap gap)
      (hitem : P b item) (htail : Row P false bs tail) :
      Row P first (b :: bs) (gap ++ (lead first ++ (item ++ tail)))

/-- A value behind blanks. -/
inductive IsItem : List Char → List Char → Prop where
  | intro {gap value : List Char} (hgap : IsGap gap) (hvalue : IsValue value) :
      IsItem value (gap ++ value)

/-- A key, a colon and a value, with blanks before each. -/
inductive IsMember : String × List Char → List Char → Prop where
  | intro {name : String} {gap word gap' gap'' value : List Char} (hgap : IsGap gap)
      (hkey : Spells word name.toList) (hgap' : IsGap gap') (hgap'' : IsGap gap'')
      (hvalue : IsValue value) :
      IsMember (name, value) (gap ++ '"' :: (word ++ '"' :: (gap' ++ ':' :: (gap'' ++ value))))

theorem IsItem.length_pos {value item : List Char} (h : IsItem value item) : 0 < item.length := by
  obtain ⟨-, hvalue⟩ := h
  obtain ⟨c, rest, rfl, -⟩ := hvalue.starts
  simp only [List.length_append, List.length_cons]
  omega

theorem IsMember.length_pos {member : String × List Char} {item : List Char}
    (h : IsMember member item) : 0 < item.length := by
  obtain ⟨-, -, -, -, -⟩ := h
  simp only [List.length_append, List.length_cons]
  omega

/-- A list of values. -/
def IsList (values : List (List Char)) (text : List Char) : Prop :=
  ∃ row, Row IsItem true values row ∧ text = '[' :: (row ++ [']'])

/-- An object with those members. -/
def IsObject (members : List (String × List Char)) (text : List Char) : Prop :=
  ∃ row, Row IsMember true members row ∧ text = '\x7b' :: (row ++ ['\x7d'])

/-- One thing with nothing but blanks around it. -/
def IsDocument (P : List Char → Prop) (text : String) : Prop :=
  ∃ gap word gap', IsGap gap ∧ P word ∧ IsGap gap' ∧ text.toList = gap ++ (word ++ gap')

theorem IsDocument.mono {P Q : List Char → Prop} {text : String} (hPQ : ∀ word, P word → Q word)
    (h : IsDocument P text) : IsDocument Q text := by
  obtain ⟨gap, word, gap', hgap, hword, hgap', htext⟩ := h
  exact ⟨gap, word, gap', hgap, hPQ word hword, hgap', htext⟩

namespace Row

variable {β : Type} {P : β → List Char → Prop} {bs : List β} {row : List Char}

theorem length_le (h : Row P first bs row) (hpos : ∀ b item, P b item → 0 < item.length) :
    bs.length ≤ row.length := by
  induction h with
  | nil => exact Nat.zero_le _
  | cons _ hitem _ ih =>
    have hlength := hpos _ _ hitem
    simp only [List.length_append, List.length_cons]
    omega

/-- Items that are read for what they hold are still items of the grammar. -/
theorem derives (h : Row P first bs row)
    (hP : ∀ b item, P b item → ∃ head value, IsHead list head ∧ IsValue value ∧
      item = head ++ value) : Derives (.row list first) row := by
  induction h with
  | nil h => exact .close h
  | cons hgap hitem _ ih =>
    obtain ⟨head, value, hhead, hvalue, rfl⟩ := hP _ _ hitem
    rw [List.append_assoc]
    exact .item hgap hhead hvalue ih

end Row

variable {values : List (List Char)} {members : List (String × List Char)} {row : List Char}

theorem Row.derives_items (h : Row IsItem first values row) : Derives (.row true first) row := by
  refine h.derives fun value item hitem => ?_
  obtain ⟨hgap, hvalue⟩ := hitem
  exact ⟨_, _, .item hgap, hvalue, rfl⟩

theorem Row.derives_members (h : Row IsMember first members row) :
    Derives (.row false first) row := by
  refine h.derives fun member item hitem => ?_
  obtain ⟨hgap, hkey, hgap', hgap'', hvalue⟩ := hitem
  refine ⟨_, _, .key hgap hkey.isRaw hgap' hgap'', hvalue, ?_⟩
  simp only [List.append_assoc, List.cons_append]

theorem IsList.isValue (h : IsList values word) : IsValue word := by
  obtain ⟨row, hrow, rfl⟩ := h
  exact .container hrow.derives_items

theorem IsObject.isValue (h : IsObject members word) : IsValue word := by
  obtain ⟨row, hrow, rfl⟩ := h
  exact .container hrow.derives_members

end ServiceStubs.Json
