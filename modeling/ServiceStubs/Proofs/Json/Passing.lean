import ServiceStubs.Proofs.Json.Scanning

/-!
# Values are passed by their grammar

What is passed over is a value, and every value is passed over where something follows that cannot
belong to it.  Values nest, so both are shown for all parts of the grammar at once: along the rounds
in the one direction, along the derivation in the other.
-/

namespace ServiceStubs.Json

variable {c : Char} {gap word s r rest head tail value row : List Char} {fuel : Nat}
variable {list first : Bool}

/-! ## Numbers -/

/-- What follows is no more of a number. -/
def Stops (s : List Char) : Prop :=
  ∀ c ∈ s.head?, c.isDigit = false ∧ c ≠ '.' ∧ c ≠ 'e' ∧ c ≠ 'E'

theorem exists_digits (s : List Char) :
    ∃ digits, (∀ c ∈ digits, c.isDigit = true) ∧ s = digits ++ s.dropWhile Char.isDigit :=
  ⟨s.takeWhile Char.isDigit, fun _ h => List.mem_takeWhile_imp h,
    List.takeWhile_append_dropWhile.symm⟩

theorem dropWhile_isDigit (hword : ∀ c ∈ word, c.isDigit = true)
    (hrest : ∀ c ∈ rest.head?, c.isDigit = false) :
    (word ++ rest).dropWhile Char.isDigit = rest := by
  rw [List.dropWhile_append_of_pos hword]
  cases rest with
  | nil => rfl
  | cons c rest =>
    refine List.dropWhile_cons_of_neg ?_
    rw [hrest c rfl]
    exact Bool.false_ne_true

/-- What is left behind a sign, if there is one. -/
def afterSign (s : List Char) : List Char :=
  match s with
  | '+' :: r => r
  | '-' :: r => r
  | r => r

theorem exists_isSign (s : List Char) : ∃ sign, IsSign sign ∧ s = sign ++ afterSign s := by
  unfold afterSign
  split
  · exact ⟨['+'], .inr (.inl rfl), rfl⟩
  · exact ⟨['-'], .inr (.inr rfl), rfl⟩
  · exact ⟨[], .inl rfl, rfl⟩

theorem afterSign_append (h : IsSign word) (hc : c.isDigit = true) :
    afterSign (word ++ c :: rest) = c :: rest := by
  rcases h with rfl | rfl | rfl
  · unfold afterSign
    split
    · next heq =>
      obtain ⟨rfl, -⟩ := List.cons.inj heq
      cases hc
    · next heq =>
      obtain ⟨rfl, -⟩ := List.cons.inj heq
      cases hc
    · rfl
  · rfl
  · rfl

theorem skipExponent_eq_ok : skipExponent s = .ok r ↔
    ∃ c rest, afterSign s = c :: rest ∧ c.isDigit = true ∧ rest.dropWhile Char.isDigit = r := by
  unfold skipExponent
  extract_lets left
  have hleft : left = afterSign s := rfl
  rw [hleft]
  cases afterSign s with
  | nil => exact ⟨nofun, nofun⟩
  | cons c rest =>
    by_cases hc : c.isDigit = true
    · simp only [if_pos hc, Except.ok.injEq]
      constructor
      · intro h
        exact ⟨c, rest, rfl, hc, h⟩
      · rintro ⟨_, _, ⟨⟩, -, h⟩
        exact h
    · simp only [if_neg hc]
      constructor
      · nofun
      · rintro ⟨_, _, ⟨⟩, h, -⟩
        exact absurd h hc

theorem exists_isExponent (h : skipNumberTail s = .ok r) :
    ∃ word, IsExponent word ∧ s = word ++ r := by
  have hletter : ∀ c s, (c = 'e' ∨ c = 'E') → skipExponent s = .ok r →
      ∃ word, IsExponent word ∧ c :: s = word ++ r := by
    intro c s hc hs
    obtain ⟨d, rest, hafter, hd, rfl⟩ := skipExponent_eq_ok.mp hs
    obtain ⟨sign, hsign, hs⟩ := exists_isSign s
    obtain ⟨digits, hdigits, hrest⟩ := exists_digits rest
    have hword : IsDigits (d :: digits) :=
      ⟨List.cons_ne_nil _ _, List.forall_mem_cons.mpr ⟨hd, hdigits⟩⟩
    refine ⟨_, .letter hc hsign hword, ?_⟩
    rw [hs, hafter, List.cons_append, List.append_assoc, List.cons_append, ← hrest]
  unfold skipNumberTail at h
  split at h
  · exact hletter _ _ (.inl rfl) h
  · exact hletter _ _ (.inr rfl) h
  · obtain rfl := Except.ok.inj h
    exact ⟨[], .none, rfl⟩

theorem skipNumberTail_append (h : IsExponent word) (hr : Stops r) :
    skipNumberTail (word ++ r) = .ok r := by
  cases h with
  | none =>
    rw [List.nil_append]
    unfold skipNumberTail
    split
    · exact absurd rfl (hr 'e' rfl).2.2.1
    · exact absurd rfl (hr 'E' rfl).2.2.2
    · rfl
  | @letter c sign digits hc hsign hdigits =>
    have hexponent : skipExponent (sign ++ digits ++ r) = .ok r := by
      obtain ⟨hne, hall⟩ := hdigits
      cases digits with
      | nil => exact absurd rfl hne
      | cons d digits =>
        obtain ⟨hd, hall⟩ := List.forall_mem_cons.mp hall
        rw [List.append_assoc]
        exact skipExponent_eq_ok.mpr ⟨d, digits ++ r, afterSign_append hsign hd, hd,
          dropWhile_isDigit hall fun c hc => (hr c hc).1⟩
    rcases hc with rfl | rfl
    · exact hexponent
    · exact hexponent

/-- What may stand behind the whole part of a number. -/
def skipDecimals (s : List Char) : Except Failure (List Char) :=
  match s with
  | '.' :: r => skipFraction r
  | r => skipNumberTail r

theorem exists_isFraction (h : skipDecimals s = .ok r) :
    ∃ fraction exponent, IsFraction fraction ∧ IsExponent exponent ∧
      s = fraction ++ (exponent ++ r) := by
  unfold skipDecimals at h
  split at h
  · next s =>
    cases s with
    | nil => cases h
    | cons c rest =>
      rw [skipFraction] at h
      split at h
      · next hc =>
        obtain ⟨exponent, hexponent, htail⟩ := exists_isExponent h
        obtain ⟨digits, hdigits, hrest⟩ := exists_digits rest
        have hword : IsDigits (c :: digits) :=
          ⟨List.cons_ne_nil _ _, List.forall_mem_cons.mpr ⟨hc, hdigits⟩⟩
        refine ⟨_, exponent, .point hword, hexponent, ?_⟩
        rw [List.cons_append, List.cons_append, ← htail, ← hrest]
      · cases h
  · obtain ⟨exponent, hexponent, rfl⟩ := exists_isExponent h
    exact ⟨[], exponent, .none, hexponent, rfl⟩

theorem isDigit_of_exponent (h : IsExponent word) (hr : Stops r) :
    ∀ c ∈ (word ++ r).head?, c.isDigit = false ∧ c ≠ '.' := by
  cases h with
  | none =>
    intro c hc
    exact ⟨(hr c hc).1, (hr c hc).2.1⟩
  | letter hc =>
    rintro d ⟨⟩
    rcases hc with rfl | rfl
    · decide
    · decide

theorem skipDecimals_append {exponent : List Char} (hfraction : IsFraction word)
    (hexponent : IsExponent exponent) (hr : Stops r) :
    skipDecimals (word ++ (exponent ++ r)) = .ok r := by
  have hhead := isDigit_of_exponent hexponent hr
  have htail := skipNumberTail_append hexponent hr
  cases hfraction with
  | none =>
    rw [List.nil_append]
    generalize exponent ++ r = s at hhead htail
    unfold skipDecimals
    split
    · exact absurd rfl (hhead '.' rfl).2
    · exact htail
  | @point digits h =>
    obtain ⟨hne, hall⟩ := h
    cases digits with
    | nil => exact absurd rfl hne
    | cons d digits =>
      obtain ⟨hd, hall⟩ := List.forall_mem_cons.mp hall
      show skipFraction (d :: (digits ++ (exponent ++ r))) = _
      rw [skipFraction, if_pos hd, dropWhile_isDigit hall fun c hc => (hhead c hc).1]
      exact htail

theorem skipNumber_cons (c : Char) (rest : List Char) : skipNumber (c :: rest) =
    if !c.isDigit then failAfter .invalidNumber (c :: rest)
    else if c = '0' && (rest.head?.map Char.isDigit).getD false then
      failAfter .invalidNumber rest
    else skipDecimals (if c = '0' then rest else rest.dropWhile Char.isDigit) := rfl

theorem exists_isNumber (h : skipNumber s = .ok r) : ∃ word, IsNumber word ∧ s = word ++ r := by
  cases s with
  | nil => cases h
  | cons c rest =>
    rw [skipNumber_cons] at h
    split at h
    · cases h
    · next hc =>
      split at h
      · cases h
      · obtain ⟨fraction, exponent, hfraction, hexponent, hrest⟩ := exists_isFraction h
        rw [Bool.not_eq_true', Bool.not_eq_false] at hc
        split at hrest
        · next hzero =>
          refine ⟨_, .intro .zero hfraction hexponent, ?_⟩
          simp only [hzero, hrest, List.append_assoc, List.cons_append, List.nil_append]
        · next hzero =>
          obtain ⟨digits, hdigits, hsplit⟩ := exists_digits rest
          have hword : IsDigits (c :: digits) :=
            ⟨List.cons_ne_nil _ _, List.forall_mem_cons.mpr ⟨hc, hdigits⟩⟩
          refine ⟨_, .intro (.digits hword hzero) hfraction hexponent, ?_⟩
          rw [hrest] at hsplit
          rw [hsplit]
          simp only [List.append_assoc, List.cons_append]

theorem skipNumber_append (h : IsNumber word) (hr : Stops r) : skipNumber (word ++ r) = .ok r := by
  obtain ⟨hwhole, hfraction, hexponent⟩ := h
  rename_i whole fraction exponent
  have hdecimals := skipDecimals_append hfraction hexponent hr
  have hhead : ∀ c ∈ (fraction ++ (exponent ++ r)).head?, c.isDigit = false := by
    cases hfraction with
    | none => exact fun c hc => (isDigit_of_exponent hexponent hr c hc).1
    | point =>
      rintro c ⟨⟩
      decide
  rw [List.append_assoc, List.append_assoc]
  generalize fraction ++ (exponent ++ r) = s at hdecimals hhead
  cases hwhole with
  | zero =>
    have hzero : (s.head?.map Char.isDigit).getD false = false := by
      cases s with
      | nil => rfl
      | cons c s => exact hhead c rfl
    rw [List.cons_append, List.nil_append, skipNumber_cons, if_neg (by decide), hzero,
      if_neg (by decide), if_pos rfl]
    exact hdecimals
  | digits h hzero =>
    obtain ⟨hc, hdigits⟩ := List.forall_mem_cons.mp h.2
    rw [List.cons_append, skipNumber_cons, if_neg (by rw [hc]; decide),
      if_neg (by simp [hzero]), if_neg hzero,
      dropWhile_isDigit hdigits hhead]
    exact hdecimals

/-! ## What is passed is a value -/

theorem closes_iff : closes list c = true ↔ c = closing list := by
  rw [closes, beq_iff_eq]
  rfl

theorem skipKey_eq_ok : skipKey (skipBlanks s) = .ok r ↔ ∃ gap word gap', IsGap gap ∧ IsRaw word ∧
    IsGap gap' ∧ s = gap ++ '"' :: (word ++ '"' :: (gap' ++ ':' :: r)) := by
  constructor
  · intro h
    cases hskip : skipBlanks s with
    | nil =>
      rw [hskip] at h
      cases h
    | cons c rest =>
      obtain ⟨-, gap, hgap, rfl⟩ := skipBlanks_eq_cons.mp hskip
      rw [hskip, skipKey] at h
      split at h
      · next hquote =>
        rw [bind_eq_ok] at h
        obtain ⟨rest', hstring, h⟩ := h
        obtain ⟨word, hword, rfl⟩ := skipString_eq_ok.mp hstring
        split at h
        · cases h
        · next d rest'' hskip' =>
          split at h
          · next hcolon =>
            obtain rfl := Except.ok.inj h
            obtain ⟨-, gap', hgap', rfl⟩ := skipBlanks_eq_cons.mp hskip'
            exact ⟨gap, word, gap', hgap, hword, hgap', by rw [hquote, hcolon]⟩
          · cases h
      · cases h
  · rintro ⟨gap, word, gap', hgap, hword, hgap', rfl⟩
    rw [skipBlanks_gap_cons hgap (by decide), skipKey, if_pos rfl]
    refine bind_eq_ok.mpr ⟨_, skipString_eq_ok.mpr ⟨word, hword, rfl⟩, ?_⟩
    rw [skipBlanks_gap_cons hgap' (by decide)]
    rfl

/-- What is done behind the value of an item: the next item, or the end. -/
def skipTail (fuel : Nat) (list : Bool) (s : List Char) : Except Failure (List Char) :=
  match skipBlanks s with
  | [] => failAfter (endIn list) []
  | c :: rest =>
    if c = ',' then skipItem fuel list rest
    else if closes list c then .ok rest
    else failAfter (expectedEndOf list) (c :: rest)

theorem skipItem_succ (fuel : Nat) (list : Bool) (s : List Char) : skipItem (fuel + 1) list s =
    ((if list then .ok s else skipKey (skipBlanks s)) >>= fun s =>
      skipValueWith fuel s >>= skipTail fuel list) := by
  rw [skipItem]
  cases list with
  | true => rfl
  | false => rfl

/-- What is passed with so much fuel belongs to the grammar. -/
structure PassesOnly (fuel : Nat) : Prop where
  value : ∀ {s r}, skipValueWith fuel s = .ok r →
    ∃ gap value, IsGap gap ∧ IsValue value ∧ s = gap ++ (value ++ r)
  opened : ∀ {list s r}, skipOpened fuel list s = .ok r →
    ∃ row, Derives (.row list true) row ∧ s = row ++ closing list :: r
  item : ∀ {list s r}, skipItem fuel list s = .ok r →
    ∃ head value tail, IsHead list head ∧ IsValue value ∧ Derives (.row list false) tail ∧
      s = head ++ (value ++ (tail ++ closing list :: r))

namespace PassesOnly

theorem zero : PassesOnly 0 where
  value h := by
    rw [skipValueWith] at h
    cases h
  opened h := by
    rw [skipOpened] at h
    cases h
  item h := by
    rw [skipItem] at h
    cases h

variable (ih : PassesOnly fuel)
include ih

theorem value_succ (h : skipValueWith (fuel + 1) s = .ok r) :
    ∃ gap value, IsGap gap ∧ IsValue value ∧ s = gap ++ (value ++ r) := by
  rw [skipValueWith] at h
  split at h
  · cases h
  · next c rest hskip =>
    obtain ⟨-, gap, hgap, rfl⟩ := skipBlanks_eq_cons.mp hskip
    have hcontainer : ∀ list, skipOpened fuel list rest = .ok r →
        ∃ value, IsValue value ∧ opening list :: rest = value ++ r := by
      intro list hopened
      obtain ⟨row, hrow, heq⟩ := ih.opened hopened
      refine ⟨_, .container hrow, ?_⟩
      simp only [heq, List.append_assoc, List.cons_append, List.nil_append]
    suffices hvalue : ∃ value, IsValue value ∧ c :: rest = value ++ r by
      obtain ⟨value, hvalue, heq⟩ := hvalue
      exact ⟨gap, value, hgap, hvalue, by rw [heq]⟩
    split_ifs at h with hn ht hf hquote hminus hdigit hlist hobject
    · exact ⟨_, .null, by rw [hn, readIdent_eq_ok.mp h]; rfl⟩
    · exact ⟨_, .boolTrue, by rw [ht, readIdent_eq_ok.mp h]; rfl⟩
    · exact ⟨_, .boolFalse, by rw [hf, readIdent_eq_ok.mp h]; rfl⟩
    · obtain ⟨word, hword, rfl⟩ := skipString_eq_ok.mp h
      exact ⟨_, .string hword, by
        simp only [hquote, List.append_assoc, List.cons_append, List.nil_append]⟩
    · obtain ⟨word, hword, rfl⟩ := exists_isNumber h
      exact ⟨_, .negative hword, by rw [hminus, List.cons_append]⟩
    · obtain ⟨word, hword, heq⟩ := exists_isNumber h
      exact ⟨_, .number hword, heq⟩
    · rw [hlist]
      exact hcontainer true h
    · rw [hobject]
      exact hcontainer false h
    · cases h

theorem tail_of_item (h : skipTail fuel list s = .ok r) :
    ∃ tail, Derives (.row list false) tail ∧ s = tail ++ closing list :: r := by
  rw [skipTail] at h
  split at h
  · cases h
  · next c rest hskip =>
    obtain ⟨-, gap, hgap, rfl⟩ := skipBlanks_eq_cons.mp hskip
    split_ifs at h with hcomma hclose
    · obtain ⟨head, value, tail, hhead, hvalue, htail, rfl⟩ := ih.item h
      refine ⟨_, .item hgap hhead hvalue htail, ?_⟩
      simp only [hcomma, lead, Bool.false_eq_true, if_false, List.append_assoc, List.cons_append,
        List.nil_append]
    · obtain rfl := Except.ok.inj h
      exact ⟨gap, .close hgap, by rw [closes_iff.mp hclose]⟩
    · cases h

theorem opened_succ (h : skipOpened (fuel + 1) list s = .ok r) :
    ∃ row, Derives (.row list true) row ∧ s = row ++ closing list :: r := by
  rw [skipOpened] at h
  split at h
  · cases h
  · next c rest hskip =>
    obtain ⟨-, gap, hgap, rfl⟩ := skipBlanks_eq_cons.mp hskip
    split_ifs at h with hclose
    · obtain rfl := Except.ok.inj h
      exact ⟨gap, .close hgap, by rw [closes_iff.mp hclose]⟩
    · obtain ⟨head, value, tail, hhead, hvalue, htail, heq⟩ := ih.item h
      refine ⟨_, .item hgap hhead hvalue htail, ?_⟩
      simp only [heq, lead, if_true, List.append_assoc, List.nil_append]

theorem item_succ (h : skipItem (fuel + 1) list s = .ok r) :
    ∃ head value tail, IsHead list head ∧ IsValue value ∧ Derives (.row list false) tail ∧
      s = head ++ (value ++ (tail ++ closing list :: r)) := by
  rw [skipItem_succ, bind_eq_ok] at h
  obtain ⟨s', hhead, h⟩ := h
  obtain ⟨s'', hpassed, hrest⟩ := bind_eq_ok.mp h
  obtain ⟨gap, value, hgap, hvalue, rfl⟩ := ih.value hpassed
  obtain ⟨tail, htail, rfl⟩ := ih.tail_of_item hrest
  cases list with
  | true =>
    obtain rfl := Except.ok.inj hhead
    exact ⟨gap, value, tail, .item hgap, hvalue, htail, rfl⟩
  | false =>
    obtain ⟨gap', word, gap'', hgap', hword, hgap'', rfl⟩ := skipKey_eq_ok.mp hhead
    refine ⟨_, value, tail, .key hgap' hword hgap'' hgap, hvalue, htail, ?_⟩
    simp only [List.append_assoc, List.cons_append]

end PassesOnly

theorem passesOnly (fuel : Nat) : PassesOnly fuel := by
  induction fuel with
  | zero => exact .zero
  | succ fuel ih => exact ⟨ih.value_succ, ih.opened_succ, ih.item_succ⟩

/-! ## Every value is passed -/

theorem stops_blank (h : isJsonBlank c = true) (rest : List Char) : Stops (c :: rest) := by
  rintro d ⟨⟩
  simp only [isJsonBlank, Bool.or_eq_true, beq_iff_eq] at h
  rcases h with ((rfl | rfl) | rfl) | rfl <;> decide

theorem stops_gap (h : IsGap gap) : Stops gap := by
  cases gap with
  | nil => exact nofun
  | cons c gap => exact stops_blank (h c List.mem_cons_self) gap

theorem stops_gap_cons (hgap : IsGap gap)
    (hc : c.isDigit = false ∧ c ≠ '.' ∧ c ≠ 'e' ∧ c ≠ 'E') (rest : List Char) :
    Stops (gap ++ c :: rest) := by
  cases gap with
  | nil =>
    rintro d ⟨⟩
    exact hc
  | cons b gap => exact stops_blank (hgap b List.mem_cons_self) _

theorem Derives.stops (h : Derives (.row list false) tail) (r : List Char) :
    Stops (tail ++ closing list :: r) := by
  generalize hpart : Part.row list false = part at h
  cases h with
  | close hgap =>
    obtain ⟨rfl, -⟩ := Part.row.inj hpart
    exact stops_gap_cons hgap (by cases list <;> decide) r
  | item hgap =>
    obtain ⟨rfl, rfl⟩ := Part.row.inj hpart
    rw [List.append_assoc]
    exact stops_gap_cons hgap (by decide) _
  | _ => cases hpart

theorem skipValueWith_gap (hgap : IsGap gap) (h : IsValue value) (hfuel : 0 < fuel)
    (r : List Char) :
    skipValueWith fuel (gap ++ (value ++ r)) = skipValueWith fuel (value ++ r) := by
  obtain ⟨fuel, rfl⟩ := Nat.exists_eq_add_one_of_ne_zero (Nat.ne_of_gt hfuel)
  have hskip := skipBlanks_value isGap_nil h r
  rw [List.nil_append] at hskip
  rw [skipValueWith, skipValueWith, skipBlanks_value hgap h, hskip]

/-- The texts of a part are passed with fuel for three rounds a character. -/
def Passed : Part → List Char → Prop
  | .value, value => ∀ r fuel, Stops r → 3 * value.length ≤ fuel →
      skipValueWith fuel (value ++ r) = .ok r
  | .row list true, row => ∀ r fuel, 3 * row.length + 2 ≤ fuel →
      skipOpened fuel list (row ++ closing list :: r) = .ok r
  | .row list false, tail => ∀ r fuel, 3 * tail.length ≤ fuel →
      skipTail fuel list (tail ++ closing list :: r) = .ok r

namespace Passed

theorem literal {word : List Char}
    (h : ∀ fuel r, skipValueWith (fuel + 1) (c :: (word ++ r)) = readIdent word (word ++ r)) :
    Passed .value (c :: word) := by
  intro r fuel _ hfuel
  rw [List.length_cons] at hfuel
  obtain ⟨fuel, rfl⟩ : ∃ n, fuel = n + 1 := ⟨fuel - 1, by omega⟩
  exact (h fuel r).trans (readIdent_eq_ok.mpr rfl)

theorem string (h : IsRaw word) : Passed .value ('"' :: (word ++ ['"'])) := by
  intro r fuel _ hfuel
  rw [List.length_cons] at hfuel
  obtain ⟨fuel, rfl⟩ : ∃ n, fuel = n + 1 := ⟨fuel - 1, by omega⟩
  exact skipString_eq_ok.mpr ⟨word, h, List.append_assoc word _ _⟩

theorem negative (h : IsNumber word) : Passed .value ('-' :: word) := by
  intro r fuel hr hfuel
  rw [List.length_cons] at hfuel
  obtain ⟨fuel, rfl⟩ : ∃ n, fuel = n + 1 := ⟨fuel - 1, by omega⟩
  exact skipNumber_append h hr

theorem number (h : IsNumber word) : Passed .value word := by
  intro r fuel hr hfuel
  have hpass := skipNumber_append h hr
  obtain ⟨c, rest, rfl, hc⟩ := h.starts
  rw [List.length_cons] at hfuel
  obtain ⟨fuel, rfl⟩ : ∃ n, fuel = n + 1 := ⟨fuel - 1, by omega⟩
  have hne : ∀ d : Char, d.isDigit = false → c ≠ d := fun d => ne_of_isDigit hc
  rw [List.cons_append] at hpass ⊢
  rw [skipValueWith, skipBlanks_cons (isJsonBlank_of_startsValue (startsValue_of_isDigit hc))]
  dsimp only
  rw [if_neg (hne 'n' (by decide)), if_neg (hne 't' (by decide)), if_neg (hne 'f' (by decide)),
    if_neg (hne '"' (by decide)), if_neg (hne '-' (by decide)), if_pos hc]
  exact hpass

theorem container (h : Passed (.row list true) row) :
    Passed .value (opening list :: (row ++ [closing list])) := by
  intro r fuel _ hfuel
  simp only [List.length_cons, List.length_append, List.length_nil] at hfuel
  obtain ⟨fuel, rfl⟩ : ∃ n, fuel = n + 1 := ⟨fuel - 1, by omega⟩
  have hrow := h r fuel (by omega)
  simp only [List.append_assoc, List.cons_append, List.nil_append]
  cases list with
  | true => exact hrow
  | false => exact hrow

theorem close (hgap : IsGap gap) : Passed (.row list first) gap := by
  have hblank : isJsonBlank (closing list) = false := by cases list <;> decide
  cases first with
  | true =>
    intro r fuel hfuel
    obtain ⟨fuel, rfl⟩ : ∃ n, fuel = n + 1 := ⟨fuel - 1, by omega⟩
    rw [skipOpened, skipBlanks_gap_cons hgap hblank]
    exact if_pos (closes_iff.mpr rfl)
  | false =>
    intro r fuel _
    have hcomma : closing list ≠ ',' := by cases list <;> decide
    rw [skipTail, skipBlanks_gap_cons hgap hblank]
    dsimp only
    rw [if_neg hcomma, if_pos (closes_iff.mpr rfl)]

/-- One round: an item. -/
theorem skipItem_head (hhead : IsHead list head) (hvalue : IsValue value)
    (hpassed : Passed .value value) (hs : Stops s) (hfuel : 3 * value.length ≤ fuel) :
    skipItem (fuel + 1) list (head ++ (value ++ s)) = skipTail fuel list s := by
  have hpos : 0 < fuel := by
    obtain ⟨c, rest, rfl, -⟩ := hvalue.starts
    rw [List.length_cons] at hfuel
    omega
  have hpass : ∀ gap, IsGap gap → skipValueWith fuel (gap ++ (value ++ s)) = .ok s := by
    intro gap hgap
    rw [skipValueWith_gap hgap hvalue hpos]
    exact hpassed s fuel hs hfuel
  rw [skipItem_succ]
  cases hhead with
  | item hgap =>
    show (skipValueWith fuel _ >>= skipTail fuel true) = _
    rw [hpass _ hgap]
    rfl
  | @key gap word gap' gap'' hgap hword hgap' hgap'' =>
    have hkey : skipKey (skipBlanks (gap ++ '"' :: (word ++ '"' :: (gap' ++ ':' :: gap'')) ++
        (value ++ s))) = .ok (gap'' ++ (value ++ s)) := by
      refine skipKey_eq_ok.mpr ⟨gap, word, gap', hgap, hword, hgap', ?_⟩
      simp only [List.append_assoc, List.cons_append]
    show (skipKey _ >>= fun s => skipValueWith fuel s >>= skipTail fuel false) = _
    rw [hkey]
    show (skipValueWith fuel _ >>= skipTail fuel false) = _
    rw [hpass _ hgap'']
    rfl

/-- Blanks before an item are skipped, and what is found there does not close the container. -/
theorem exists_head (hhead : IsHead list head) (hvalue : IsValue value) (hgap : IsGap gap)
    (s : List Char) : ∃ head' c rest, IsHead list head' ∧ head' ++ (value ++ s) = c :: rest ∧
      skipBlanks (gap ++ (head ++ (value ++ s))) = c :: rest ∧ closes list c = false := by
  cases hhead with
  | item hgap' =>
    have hskip := skipBlanks_value hgap' hvalue s
    rw [← skipBlanks_append hgap] at hskip
    obtain ⟨c, rest, rfl, hc⟩ := hvalue.starts
    refine ⟨[], c, rest ++ s, .item isGap_nil, rfl, hskip, ?_⟩
    simp only [startsValue, Bool.and_eq_true, bne_iff_ne] at hc
    simp only [closes, if_true, beq_eq_false_iff_ne]
    exact hc.1.2
  | @key gap₁ word gap₂ gap₃ hgap₁ hword hgap₂ hgap₃ =>
    refine ⟨[] ++ '"' :: (word ++ '"' :: (gap₂ ++ ':' :: gap₃)), '"', _,
      .key isGap_nil hword hgap₂ hgap₃, rfl, ?_, by decide⟩
    rw [skipBlanks_append hgap, List.append_assoc, List.cons_append]
    exact skipBlanks_gap_cons hgap₁ (by decide) _

theorem item (hgap : IsGap gap) (hhead : IsHead list head) (hvalue : IsValue value)
    (hpassed : Passed .value value) (htail : Derives (.row list false) tail)
    (ih : Passed (.row list false) tail) :
    Passed (.row list first) (gap ++ (lead first ++ (head ++ (value ++ tail)))) := by
  cases first with
  | true =>
    intro r fuel hfuel
    simp only [List.length_append] at hfuel
    obtain ⟨fuel, rfl⟩ : ∃ n, fuel = n + 2 := ⟨fuel - 2, by omega⟩
    obtain ⟨head', c, rest, hhead', hrest, hskip, hclose⟩ :=
      exists_head hhead hvalue hgap (tail ++ closing list :: r)
    have hfuel : 3 * value.length ≤ fuel := by omega
    have hitem := skipItem_head hhead' hvalue hpassed (htail.stops r) hfuel
    have hrow : gap ++ (lead true ++ (head ++ (value ++ tail))) ++ closing list :: r =
        gap ++ (head ++ (value ++ (tail ++ closing list :: r))) := by
      simp only [lead, if_true, List.append_assoc, List.nil_append]
    rw [hrow, skipOpened, hskip]
    dsimp only
    rw [if_neg (by rw [hclose]; decide), ← hrest, hitem]
    exact ih r fuel (by omega)
  | false =>
    intro r fuel hfuel
    simp only [lead, Bool.false_eq_true, if_false, List.length_append, List.length_cons,
      List.length_nil] at hfuel
    obtain ⟨fuel, rfl⟩ : ∃ n, fuel = n + 1 := ⟨fuel - 1, by omega⟩
    have hfuel : 3 * value.length ≤ fuel := by omega
    have hitem := skipItem_head hhead hvalue hpassed (htail.stops r) hfuel
    have hrow : gap ++ (lead false ++ (head ++ (value ++ tail))) ++ closing list :: r =
        gap ++ ',' :: (head ++ (value ++ (tail ++ closing list :: r))) := by
      simp only [lead, Bool.false_eq_true, if_false, List.append_assoc, List.cons_append,
        List.nil_append]
    rw [hrow, skipTail, skipBlanks_gap_cons hgap (by decide)]
    dsimp only
    rw [if_pos rfl, hitem]
    exact ih r fuel (by omega)

end Passed

theorem Derives.passed {part : Part} (h : Derives part word) : Passed part word := by
  induction h with
  | null => exact .literal fun _ _ => rfl
  | boolTrue => exact .literal fun _ _ => rfl
  | boolFalse => exact .literal fun _ _ => rfl
  | string h => exact .string h
  | number h => exact .number h
  | negative h => exact .negative h
  | container _ ih => exact ih.container
  | close hgap => exact .close hgap
  | item hgap hhead hvalue htail ihvalue ihtail =>
    exact .item hgap hhead hvalue ihvalue htail ihtail

/-! ## One value -/

theorem exists_value (h : skipValue s = .ok r) :
    ∃ gap value, IsGap gap ∧ IsValue value ∧ s = gap ++ (value ++ r) :=
  (passesOnly _).value h

theorem skipValue_append (hgap : IsGap gap) (h : IsValue value) (hr : Stops r) :
    skipValue (gap ++ (value ++ r)) = .ok r := by
  rw [skipValue, skipValueWith_gap hgap h (Nat.succ_pos _)]
  refine h.passed r _ hr ?_
  simp only [List.length_append]
  omega

end ServiceStubs.Json
