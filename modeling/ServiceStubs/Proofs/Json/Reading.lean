import ServiceStubs.Json.Record
import ServiceStubs.Proofs.Json.Strings

/-!
# What readers take

A reader takes a written value if it gives the value there and stops behind it, whatever blanks
stand before and whatever follows.  Lists and records are taken when their items and members are,
with commas between them.  The members of a record may come in any order.
-/

namespace ServiceStubs.Json

open ServiceStubs.Json.Value (encodeChar encodeString)

variable {α β σ : Type}

/-! ## Blanks -/

/-- Nothing but blanks. -/
def IsGap (s : List Char) : Prop := ∀ c ∈ s, isJsonBlank c = true

theorem isGap_nil : IsGap [] := List.forall_mem_nil _

variable {c : Char} {s gap rest written : List Char}

theorem skipBlanks_append (h : IsGap gap) (s : List Char) :
    skipBlanks (gap ++ s) = skipBlanks s :=
  List.dropWhile_append_of_pos h

theorem skipBlanks_cons (h : isJsonBlank c = false) (s : List Char) :
    skipBlanks (c :: s) = c :: s :=
  List.dropWhile_cons_of_neg (by rw [h]; exact Bool.false_ne_true)

theorem skipBlanks_gap_cons (hgap : IsGap gap) (h : isJsonBlank c = false) (s : List Char) :
    skipBlanks (gap ++ c :: s) = c :: s := by
  rw [skipBlanks_append hgap, skipBlanks_cons h]

/-! ## Values -/

/-- The characters that start a string, a list or a record. -/
def opensValue (c : Char) : Bool :=
  c == '"' || c == '[' || c == '\x7b'

theorem isJsonBlank_of_opensValue (h : opensValue c = true) : isJsonBlank c = false := by
  simp only [opensValue, Bool.or_eq_true, beq_iff_eq] at h
  rcases h with (rfl | rfl) | rfl <;> decide

theorem ne_of_opensValue {d : Char} (h : opensValue c = true) (hd : opensValue d = false) :
    c ≠ d := by
  rintro rfl
  rw [h] at hd
  cases hd

/-- The reader takes what is written, and gives the value. -/
structure Takes (read : Reader α) (written : List Char) (a : α) : Prop where
  opens : ∃ c rest, written = c :: rest ∧ opensValue c = true
  read_eq : ∀ gap rest, IsGap gap → read (gap ++ (written ++ rest)) = .ok (a, rest)

namespace Takes

variable {read : Reader α} {a : α}

/-- Whatever skips blanks comes to the value. -/
theorem skipBlanks_eq (h : Takes read written a) (hgap : IsGap gap) (rest : List Char) :
    skipBlanks (gap ++ (written ++ rest)) = written ++ rest := by
  obtain ⟨c, t, rfl, hc⟩ := h.opens
  exact skipBlanks_gap_cons hgap (isJsonBlank_of_opensValue hc) _

theorem length_pos (h : Takes read written a) : 0 < written.length := by
  obtain ⟨c, t, rfl, -⟩ := h.opens
  exact Nat.succ_pos _

theorem map (h : Takes read written a) (f : α → β) :
    Takes (fun s => (read s).map fun (v, r) => (f v, r)) written (f a) := by
  refine ⟨h.opens, ?_⟩
  intro gap rest hgap
  dsimp only
  rw [h.read_eq gap rest hgap]
  rfl

theorem string (s : String) : Takes readString (encodeString s) s := by
  refine ⟨⟨'"', _, rfl, by decide⟩, ?_⟩
  intro gap rest hgap
  have hwritten : encodeString s ++ rest = '"' :: (s.toList.flatMap encodeChar ++ '"' :: rest) := by
    simp only [encodeString, List.cons_append, List.append_assoc, List.nil_append]
  rw [readString, hwritten, skipBlanks_gap_cons hgap (by decide)]
  exact readStringBody_encode s rest

/-- Where null would mean empty, a value that is there is taken as it is. -/
theorem orEmpty [Inhabited α] (h : Takes read written a) : Takes (readOrEmpty read) written a := by
  refine ⟨h.opens, ?_⟩
  intro gap rest hgap
  have hread := h.read_eq [] rest isGap_nil
  rw [readOrEmpty, readOptional, h.skipBlanks_eq hgap]
  obtain ⟨c, t, rfl, hc⟩ := h.opens
  have hnull : c ≠ 'n' := ne_of_opensValue hc (by decide)
  rw [List.nil_append] at hread
  simp only [List.cons_append] at hread ⊢
  rw [if_neg hnull, hread]
  rfl

theorem field (h : Takes read written a) (key : String) (required : Bool) (store : α → σ → σ) :
    Takes (Field.of key required read store).read written (store a) :=
  h.map store

end Takes

/-! ## Commas -/

/-- Pieces with commas between them, each of which stands for a value. -/
inductive Separated (P : List Char → β → Prop) : List Char → List β → Prop where
  | last {piece : List Char} {b : β} (h : P piece b) : Separated P piece [b]
  | cons {piece pieces : List Char} {b : β} {bs : List β} (h : P piece b)
      (hs : Separated P pieces bs) : Separated P (piece ++ ',' :: pieces) (b :: bs)

theorem Separated.length_le {P : List Char → β → Prop} {bs : List β}
    (h : Separated P written bs) (hpos : ∀ piece b, P piece b → 0 < piece.length) :
    bs.length ≤ written.length := by
  induction h with
  | last h => exact hpos _ _ h
  | cons h hs ih =>
    have hpiece := hpos _ _ h
    simp only [List.length_append, List.length_cons]
    omega

/-- What stands before an item or member: a comma, unless it is the first. -/
def lead (first : Bool) : List Char :=
  if first then [] else [',']

/-! ## Lists -/

/-- A value behind blanks. -/
def TakesItem (read : Reader α) (written : List Char) (a : α) : Prop :=
  ∃ gap value, written = gap ++ value ∧ IsGap gap ∧ Takes read value a

variable {read : Reader α} {a : α}

theorem nextItem_lead (first : Bool) (hgap : IsGap gap) (h : Takes read written a)
    (rest : List Char) :
    nextItem first (lead first ++ (gap ++ (written ++ rest))) = .ok (true, written ++ rest) := by
  have hskip := h.skipBlanks_eq hgap rest
  obtain ⟨c, t, rfl, hc⟩ := h.opens
  have hend : c ≠ ']' := ne_of_opensValue hc (by decide)
  cases first with
  | true =>
    show nextItem true (gap ++ (c :: t ++ rest)) = _
    rw [nextItem, hskip]
    simp only [List.cons_append, if_neg hend, if_pos]
  | false =>
    show nextItem false (',' :: (gap ++ (c :: t ++ rest))) = _
    rw [nextItem, skipBlanks_cons (by decide)]
    dsimp only
    rw [if_neg (by decide), if_neg Bool.false_ne_true, if_pos rfl, hskip]
    simp only [List.cons_append, if_neg hend]

theorem nextItem_end (first : Bool) (hgap : IsGap gap) (rest : List Char) :
    nextItem first (gap ++ ']' :: rest) = .ok (false, ']' :: rest) := by
  rw [nextItem, skipBlanks_gap_cons hgap (by decide)]
  rfl

/-- One round: an item. -/
theorem readItems_round (h : TakesItem read written a) (first : Bool) {fuel : Nat} {as : List α}
    {tail tail' : List Char} (htail : readItems read fuel false tail = .ok (as, tail')) :
    readItems read (fuel + 1) first (lead first ++ (written ++ tail)) = .ok (a :: as, tail') := by
  obtain ⟨gap, value, rfl, hgap, hvalue⟩ := h
  have hread := hvalue.read_eq [] tail isGap_nil
  rw [List.nil_append] at hread
  rw [List.append_assoc, readItems, nextItem_lead first hgap hvalue]
  show (read (value ++ tail) >>= fun p => readItems read fuel false p.2 >>= fun q =>
    Except.ok (p.1 :: q.1, q.2)) = _
  rw [hread]
  show (readItems read fuel false tail >>= fun q => Except.ok (a :: q.1, q.2)) = _
  rw [htail]
  rfl

/-- A round for each item, and one that finds the end. -/
theorem readItems_separated {as : List α} (h : Separated (TakesItem read) written as)
    (hgap : IsGap gap) (first : Bool) {fuel : Nat} (hfuel : as.length < fuel) (rest : List Char) :
    readItems read fuel first (lead first ++ (written ++ (gap ++ ']' :: rest))) =
      .ok (as, rest) := by
  induction h generalizing first fuel with
  | last hitem =>
    obtain ⟨fuel, rfl⟩ : ∃ n, fuel = n + 2 := ⟨fuel - 2, by simp at hfuel; omega⟩
    refine readItems_round hitem first ?_
    rw [readItems, nextItem_end false hgap]
    rfl
  | cons hitem hs ih =>
    obtain ⟨fuel, rfl⟩ : ∃ n, fuel = n + 1 := ⟨fuel - 1, by omega⟩
    rw [List.append_assoc]
    exact readItems_round hitem first (ih false (Nat.lt_of_succ_lt_succ hfuel))

theorem TakesItem.length_pos (h : TakesItem read written a) : 0 < written.length := by
  obtain ⟨gap, value, rfl, -, hvalue⟩ := h
  have hpos := hvalue.length_pos
  rw [List.length_append]
  omega

namespace Takes

theorem emptyList (read : Reader α) : Takes (readList read) ['[', ']'] [] := by
  refine ⟨⟨'[', _, rfl, by decide⟩, ?_⟩
  intro gap rest hgap
  show readList read (gap ++ '[' :: ']' :: rest) = _
  rw [readList, skipBlanks_gap_cons hgap (by decide)]
  rfl

theorem list {as : List α} (h : Separated (TakesItem read) written as) (hgap : IsGap gap) :
    Takes (readList read) ('[' :: (written ++ (gap ++ [']']))) as := by
  refine ⟨⟨'[', _, rfl, by decide⟩, ?_⟩
  intro gap' rest hgap'
  have hbody : written ++ (gap ++ [']']) ++ rest = written ++ (gap ++ ']' :: rest) := by
    simp only [List.append_assoc, List.singleton_append]
  have hlength := h.length_le fun _ _ => TakesItem.length_pos
  have hfuel : as.length < (written ++ (gap ++ ']' :: rest)).length + 1 := by
    rw [List.length_append]
    omega
  rw [List.cons_append, hbody, readList, skipBlanks_gap_cons hgap' (by decide)]
  exact readItems_separated h hgap true hfuel rest

end Takes

/-! ## Records -/

/-- A key of the record behind blanks, with a value that its field takes: the key, and what becomes
of the record. -/
def TakesMember (shape : Shape σ) (written : List Char) (member : String × (σ → σ)) : Prop :=
  ∃ gap colon value field, written = gap ++ (encodeString member.1 ++ ':' :: (colon ++ value)) ∧
    IsGap gap ∧ IsGap colon ∧ shape.fields.find? (·.key == member.1) = some field ∧
    Takes field.read value member.2

theorem nextKey_lead (first : Bool) (hgap : IsGap gap) (rest : List Char) :
    nextKey first (lead first ++ (gap ++ '"' :: rest)) = .ok (true, rest) := by
  have hskip := skipBlanks_gap_cons (c := '"') hgap (by decide) rest
  cases first with
  | true =>
    show nextKey true (gap ++ '"' :: rest) = _
    rw [nextKey, hskip]
    rfl
  | false =>
    show nextKey false (',' :: (gap ++ '"' :: rest)) = _
    rw [nextKey, skipBlanks_cons (by decide)]
    dsimp only
    rw [if_neg (by decide), if_neg Bool.false_ne_true, if_pos rfl, hskip]
    rfl

theorem nextKey_end (first : Bool) (hgap : IsGap gap) (rest : List Char) :
    nextKey first (gap ++ '\x7d' :: rest) = .ok (false, '\x7d' :: rest) := by
  rw [nextKey, skipBlanks_gap_cons hgap (by decide)]
  rfl

namespace Shape

variable {shape : Shape σ} {member : String × (σ → σ)} {members : List (String × (σ → σ))}

/-- The keys of members, newest first. -/
def keysOf (members : List (String × (σ → σ))) : List String :=
  (members.map Prod.fst).reverse

theorem keysOf_cons (member : String × (σ → σ)) (members : List (String × (σ → σ)))
    (seen : List String) :
    keysOf (member :: members) ++ seen = keysOf members ++ member.1 :: seen := by
  rw [keysOf, List.map_cons, List.reverse_cons, List.append_assoc]
  rfl

/-- One round: a key that was not seen and its value. -/
theorem readMembers_round (h : TakesMember shape written member) (first : Bool)
    {seen : List String} (hseen : member.1 ∉ seen) (fuel : Nat) (record : σ) (tail : List Char) :
    shape.readMembers (fuel + 1) first seen record (lead first ++ (written ++ tail)) =
      shape.readMembers fuel false (member.1 :: seen) (member.2 record) tail := by
  obtain ⟨gap, colon, value, field, rfl, hgap, hcolon, hfield, hvalue⟩ := h
  have hkey : gap ++ (encodeString member.1 ++ ':' :: (colon ++ value)) ++ tail =
      gap ++ '"' :: (member.1.toList.flatMap encodeChar ++
        '"' :: (':' :: (colon ++ (value ++ tail)))) := by
    simp only [encodeString, List.append_assoc, List.cons_append, List.nil_append]
  have hread : (readColon (':' :: (colon ++ (value ++ tail))) >>= field.read) =
      .ok (member.2, tail) := by
    rw [readColon, skipBlanks_cons (by decide)]
    exact hvalue.read_eq colon tail hcolon
  have hnew : ¬ seen.contains member.1 = true := by
    rw [List.contains_iff_mem]
    exact hseen
  rw [hkey, readMembers, nextKey_lead first hgap]
  show (placed (readStringBody _) >>= _) = _
  rw [readStringBody_encode]
  simp only [placed, bind, Except.bind, hfield] at hread ⊢
  rw [if_neg hnew, hread]

theorem readMembers_separated (h : Separated (TakesMember shape) written members)
    (hgap : IsGap gap) (first : Bool) {seen : List String} {fuel : Nat}
    (hfuel : members.length < fuel) (hnodup : (keysOf members ++ seen).Nodup)
    (hcomplete : shape.firstMissing? (keysOf members ++ seen) = none) (record : σ)
    (rest : List Char) :
    shape.readMembers fuel first seen record (lead first ++ (written ++ (gap ++ '\x7d' :: rest))) =
      .ok (members.foldl (fun r m => m.2 r) record, '\x7d' :: rest) := by
  induction h generalizing first seen fuel record with
  | @last piece member hmember =>
    obtain ⟨fuel, rfl⟩ : ∃ n, fuel = n + 2 := ⟨fuel - 2, by simp at hfuel; omega⟩
    rw [keysOf_cons] at hnodup hcomplete
    have hseen : member.1 ∉ seen := (List.nodup_cons.mp hnodup).1
    have hmissing : shape.firstMissing? (member.1 :: seen) = none := hcomplete
    rw [readMembers_round hmember first hseen, readMembers, nextKey_end false hgap]
    simp only [placed, bind, Except.bind, hmissing]
    rfl
  | @cons piece pieces member members hmember hs ih =>
    obtain ⟨fuel, rfl⟩ : ∃ n, fuel = n + 1 := ⟨fuel - 1, by omega⟩
    rw [keysOf_cons] at hnodup hcomplete
    have hseen : member.1 ∉ seen :=
      (List.nodup_cons.mp (List.nodup_append.mp hnodup).2.1).1
    rw [List.append_assoc, readMembers_round hmember first hseen]
    exact ih false (Nat.lt_of_succ_lt_succ hfuel) hnodup hcomplete _

end Shape

theorem TakesMember.length_pos {shape : Shape σ} {member : String × (σ → σ)}
    (h : TakesMember shape written member) : 0 < written.length := by
  obtain ⟨gap, colon, value, field, rfl, -⟩ := h
  simp only [List.length_append, List.length_cons]
  omega

/-- A record whose keys differ and are complete. -/
theorem Takes.record {shape : Shape σ} {members : List (String × (σ → σ))}
    (h : Separated (TakesMember shape) written members) (hgap : IsGap gap)
    (hnodup : (Shape.keysOf members).Nodup)
    (hcomplete : shape.firstMissing? (Shape.keysOf members) = none) :
    Takes shape.read ('\x7b' :: (written ++ (gap ++ ['\x7d'])))
      (members.foldl (fun r m => m.2 r) shape.blank) := by
  refine ⟨⟨'\x7b', _, rfl, by decide⟩, ?_⟩
  intro gap' rest hgap'
  have hbody : written ++ (gap ++ ['\x7d']) ++ rest = written ++ (gap ++ '\x7d' :: rest) := by
    simp only [List.append_assoc, List.singleton_append]
  have hlength := h.length_le fun _ _ => TakesMember.length_pos
  have hfuel : members.length < (written ++ (gap ++ '\x7d' :: rest)).length + 1 := by
    rw [List.length_append]
    omega
  have hmembers : shape.readMembers ((written ++ (gap ++ '\x7d' :: rest)).length + 1) true []
      shape.blank (written ++ (gap ++ '\x7d' :: rest)) =
      .ok (members.foldl (fun r m => m.2 r) shape.blank, '\x7d' :: rest) :=
    Shape.readMembers_separated h hgap true hfuel (by rwa [List.append_nil])
      (by rwa [List.append_nil]) shape.blank rest
  rw [List.cons_append, hbody, Shape.read, skipBlanks_gap_cons hgap' (by decide)]
  dsimp only
  rw [if_pos rfl, hmembers]
  rfl

end ServiceStubs.Json
