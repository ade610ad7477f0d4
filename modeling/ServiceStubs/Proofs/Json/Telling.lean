import ServiceStubs.Proofs.Json.Wording
import ServiceStubs.Proofs.Result

/-!
# What is wrong with a document is told in one line

Whatever a reader fails with is told in one line: the parts of the document that a message shows are
on one line, and a key is only shown if it is that of a field.  So no document can put a line break
into the message about it.
-/

namespace ServiceStubs.Json

open ServiceStubs.Text (IsOneLine isOneLine_toString)

variable {α β σ : Type} {c : Char} {fuel : Nat} {s word rest : List Char} {cause : Cause}
variable {first list : Bool}

/-- Whatever the computation fails with is told in one line. -/
def Tells (x : Except Failure α) : Prop := ∀ f, x = .error f → IsOneLine f.cause.describe

namespace Tells

theorem ok (a : α) : Tells (.ok a) := nofun

theorem failAt (h : IsOneLine cause.describe) : Tells (failAt cause rest : Except Failure α) := by
  rintro f ⟨⟩
  exact h

theorem failAfter (h : IsOneLine cause.describe) :
    Tells (failAfter cause rest : Except Failure α) := by
  rintro f ⟨⟩
  exact h

theorem bind_of {x : Except Failure α} {f : α → Except Failure β} (hx : Tells x)
    (hf : ∀ a, x = .ok a → Tells (f a)) : Tells (x >>= f) := by
  intro e h
  rcases bind_eq_error.mp h with h | ⟨a, ha, h⟩
  · exact hx e h
  · exact hf a ha e h

theorem bind {x : Except Failure α} {f : α → Except Failure β} (hx : Tells x)
    (hf : ∀ a, Tells (f a)) : Tells (x >>= f) :=
  hx.bind_of fun a _ => hf a

/-- Two ways to the same continuation. -/
theorem either {p : Prop} [Decidable p] {x y : Except Failure α} {f : α → Except Failure β}
    (hx : Tells x) (hy : Tells y) (hf : ∀ a, Tells (f a)) :
    Tells (if p then x >>= f else y >>= f) := by
  split_ifs
  · exact hx.bind hf
  · exact hy.bind hf

theorem map {x : Except Failure α} (hx : Tells x) (f : α → β) : Tells (x.map f) :=
  fun e h => hx e (map_eq_error.mp h)

end Tells

/-! ## Characters and strings -/

theorem tells_readIdent (word s : List Char) : Tells (readIdent word s) := by
  induction word generalizing s with
  | nil => exact .ok _
  | cons e expected ih =>
    cases s with
    | nil => exact .failAt (by decide)
    | cons c rest =>
      rw [readIdent]
      split_ifs
      · exact ih rest
      · exact .failAfter (by decide)

theorem tells_readHex4 (s : List Char) : Tells (readHex4 s) := by
  have hescape : IsOneLine Cause.invalidEscape.describe := by decide
  unfold readHex4
  split
  · exact .failAt (by decide)
  · split
    · split
      · exact .ok _
      · rintro f ⟨⟩
        exact hescape
    · rintro f ⟨⟩
      exact hescape

theorem tells_readBetween (expected : Char) (s : List Char) : Tells (readBetween expected s) := by
  cases s with
  | nil => exact .failAt (by decide)
  | cons c rest =>
    rw [readBetween]
    split_ifs
    · exact .ok _
    · exact .failAfter (by decide)

theorem tells_readUnicodeEscape (s : List Char) : Tells (readUnicodeEscape s) := by
  refine (tells_readHex4 s).bind fun p => ?_
  dsimp only
  split_ifs
  · exact .failAt (by decide)
  · refine (tells_readBetween '\\' _).bind fun r => (tells_readBetween 'u' r).bind fun r' => ?_
    refine (tells_readHex4 r').bind fun q => ?_
    split_ifs
    · exact .ok _
    · exact .failAt (by decide)
  · exact .ok _

theorem tells_readEscape (s : List Char) : Tells (readEscape s) := by
  cases s with
  | nil => exact .failAt (by decide)
  | cons c rest =>
    rw [readEscape]
    split_ifs
    · exact tells_readUnicodeEscape rest
    · split
      · exact .ok _
      · exact .failAfter (by decide)

theorem tells_readChars (fuel : Nat) (s : List Char) : Tells (readChars fuel s) := by
  induction fuel generalizing s with
  | zero => exact .failAt (by decide)
  | succ fuel ih =>
    cases s with
    | nil => exact .failAt (by decide)
    | cons c rest =>
      rw [readChars]
      split_ifs
      · exact .ok _
      · exact (tells_readEscape rest).bind fun p => (ih p.2).bind fun q => .ok _
      · exact .failAfter (by decide)
      · exact (ih rest).bind fun p => .ok _

theorem tells_readStringBody (s : List Char) : Tells (readStringBody s) :=
  (tells_readChars _ s).bind fun _ => .ok _

/-! ## Values that are passed -/

theorem tells_skipEscape (s : List Char) : Tells (skipEscape s) := by
  cases s with
  | nil => exact .failAt (by decide)
  | cons c rest =>
    rw [skipEscape]
    split_ifs
    · exact (tells_readHex4 rest).map _
    · split
      · exact .ok _
      · exact .failAfter (by decide)

theorem tells_skipChars (fuel : Nat) (s : List Char) : Tells (skipChars fuel s) := by
  induction fuel generalizing s with
  | zero => exact .failAt (by decide)
  | succ fuel ih =>
    cases s with
    | nil => exact .failAt (by decide)
    | cons c rest =>
      rw [skipChars]
      split_ifs
      · exact .ok _
      · exact (tells_skipEscape rest).bind ih
      · exact .failAt (by decide)
      · exact ih rest

theorem tells_skipString (s : List Char) : Tells (skipString s) :=
  tells_skipChars _ s

theorem tells_skipExponent (s : List Char) : Tells (skipExponent s) := by
  unfold skipExponent
  dsimp only
  split
  · exact .failAt (by decide)
  · split_ifs
    · exact .ok _
    · exact .failAfter (by decide)

theorem tells_skipNumberTail (s : List Char) : Tells (skipNumberTail s) := by
  unfold skipNumberTail
  split
  · exact tells_skipExponent _
  · exact tells_skipExponent _
  · exact .ok _

theorem tells_skipFraction (s : List Char) : Tells (skipFraction s) := by
  cases s with
  | nil => exact .failAfter (by decide)
  | cons c rest =>
    rw [skipFraction]
    split_ifs
    · exact tells_skipNumberTail _
    · exact .failAfter (by decide)

theorem tells_skipNumber (s : List Char) : Tells (skipNumber s) := by
  cases s with
  | nil => exact .failAt (by decide)
  | cons c rest =>
    rw [skipNumber]
    split_ifs
    · exact .failAfter (by decide)
    · exact .failAfter (by decide)
    · split
      · exact tells_skipFraction _
      · exact tells_skipNumberTail _
    · split
      · exact tells_skipFraction _
      · exact tells_skipNumberTail _

theorem tells_skipKey (s : List Char) : Tells (skipKey s) := by
  cases s with
  | nil => exact .failAfter (by decide)
  | cons c rest =>
    rw [skipKey]
    split_ifs
    · refine (tells_skipString rest).bind fun r => ?_
      split
      · exact .failAfter (by decide)
      · split_ifs
        · exact .ok _
        · exact .failAfter (by decide)
    · exact .failAfter (by decide)

/-- All rounds with so much fuel. -/
structure TellsSkipping (fuel : Nat) : Prop where
  value : ∀ s, Tells (skipValueWith fuel s)
  opened : ∀ list s, Tells (skipOpened fuel list s)
  item : ∀ list s, Tells (skipItem fuel list s)

theorem tellsSkipping (fuel : Nat) : TellsSkipping fuel := by
  induction fuel with
  | zero =>
    refine ⟨fun s => ?_, fun list s => ?_, fun list s => ?_⟩
    · rw [skipValueWith]
      exact .failAfter (by decide)
    · rw [skipOpened]
      exact .failAfter (by decide)
    · rw [skipItem]
      exact .failAfter (by decide)
  | succ fuel ih =>
    refine ⟨fun s => ?_, fun list s => ?_, fun list s => ?_⟩
    · rw [skipValueWith]
      split
      · exact .failAfter (by decide)
      · split_ifs
        · exact tells_readIdent _ _
        · exact tells_readIdent _ _
        · exact tells_readIdent _ _
        · exact tells_skipString _
        · exact tells_skipNumber _
        · exact tells_skipNumber _
        · exact ih.opened true _
        · exact ih.opened false _
        · exact .failAfter (by decide)
    · rw [skipOpened]
      split
      · exact .failAfter (isOneLine_endIn list)
      · split_ifs
        · exact .ok _
        · exact ih.item list _
    · rw [skipItem]
      refine .either (.ok s) (tells_skipKey _) fun s => (ih.value s).bind fun r => ?_
      split
      · exact .failAfter (isOneLine_endIn list)
      · split_ifs
        · exact ih.item list _
        · exact .ok _
        · exact .failAfter (isOneLine_expectedEndOf list)

theorem tells_skipValue (s : List Char) : Tells (skipValue s) :=
  (tellsSkipping _).value s

/-! ## Values of the wrong type -/

/-- The computation fails in one line, and what it finds is shown in one. -/
structure Shows (x : Except Failure (Found × List Char)) : Prop where
  tells : Tells x
  found : ∀ {found rest}, x = .ok (found, rest) → IsOneLine found.describe

namespace Shows

theorem ok {found : Found} (h : IsOneLine found.describe) (rest : List Char) :
    Shows (.ok (found, rest)) := by
  refine ⟨.ok _, ?_⟩
  rintro _ _ ⟨⟩
  exact h

theorem failAt (h : IsOneLine cause.describe) : Shows (failAt cause rest) :=
  ⟨.failAt h, nofun⟩

theorem failAfter (h : IsOneLine cause.describe) : Shows (failAfter cause rest) :=
  ⟨.failAfter h, nofun⟩

theorem map {x : Except Failure α} (hx : Tells x) {f : α → Found × List Char}
    (h : ∀ a, IsOneLine (f a).1.describe) : Shows (x.map f) := by
  refine ⟨hx.map f, ?_⟩
  intro found rest heq
  obtain ⟨a, -, hpair⟩ := map_eq_ok.mp heq
  have hfound := h a
  rwa [hpair] at hfound

end Shows

namespace Number

theorem shows_finish (positive : Bool) (word : Nat) (exponent : Int) (s : List Char) :
    Shows (finish positive word exponent s) := by
  rw [finish]
  split
  · exact .failAt (by decide)
  · exact .ok (isOneLine_decimal (Decimal.isOneLine_text _ _)) _

theorem shows_readExponent (positive : Bool) (word : Nat) (start : Int) (s : List Char) :
    Shows (readExponent positive word start s) := by
  unfold readExponent
  dsimp only
  split
  · exact .failAt (by decide)
  · split_ifs
    · exact shows_finish _ _ _ _
    · exact shows_finish _ _ _ _
    · exact .failAt (by decide)
    · exact .ok (isOneLine_decimal (by decide)) _
    · exact .ok (isOneLine_decimal (by decide)) _
    · exact .failAfter (by decide)

theorem shows_readTail (positive : Bool) (word : Nat) (exponent : Int) (s : List Char) :
    Shows (readTail positive word exponent s) := by
  unfold readTail
  split
  · exact shows_readExponent _ _ _ _
  · exact shows_readExponent _ _ _ _
  · exact shows_finish _ _ _ _

theorem shows_readFraction (positive : Bool) (word : Nat) (exponent : Int) (s : List Char) :
    Shows (readFraction positive word exponent s) := by
  unfold readFraction
  dsimp only
  split_ifs
  · exact .failAfter (by decide)
  · exact .failAfter (by decide)
  · exact shows_readTail _ _ _ _
  · exact shows_readTail _ _ _ _

theorem shows_read (positive : Bool) (s : List Char) : Shows (read positive s) := by
  cases s with
  | nil => exact .failAt (by decide)
  | cons c rest =>
    unfold read
    dsimp only
    split
    · exact .failAfter (by decide)
    · split
      · exact .failAfter (by decide)
      · generalize (if c = '0' then (true, 0, 0, rest)
          else accumulate wordLimit (digitValue c) rest) = p
        split
        · split
          · exact shows_readFraction _ _ _ _
          · exact shows_readExponent _ _ _ _
          · exact shows_readExponent _ _ _ _
          · split_ifs
            · exact .ok (isOneLine_integer _) _
            · exact shows_finish _ _ _ _
            · exact .ok (isOneLine_integer _) _
        · split
          · exact shows_readFraction _ _ _ _
          · exact shows_readTail _ _ _ _

end Number

theorem tells_wrongType {expected : String} (h : IsOneLine expected) (s : List Char) :
    Tells (wrongType expected s : Except Failure α) := by
  have hfound : ∀ {x : Except Failure (Found × List Char)}, Shows x →
      Tells (x >>= fun p => Json.failAt (.wrongType p.1 expected) p.2 : Except Failure α) :=
    fun hx => hx.tells.bind_of fun p hp => .failAt (isOneLine_wrongType (hx.found hp) h)
  have hnull : IsOneLine Found.null.describe := by decide
  have htrue : IsOneLine (Found.boolean true).describe := by decide
  have hfalse : IsOneLine (Found.boolean false).describe := by decide
  unfold wrongType
  split
  · exact .failAfter (by decide)
  · split_ifs
    · exact hfound (.map (tells_readIdent _ _) fun _ => hnull)
    · exact hfound (.map (tells_readIdent _ _) fun _ => htrue)
    · exact hfound (.map (tells_readIdent _ _) fun _ => hfalse)
    · exact hfound (Number.shows_read _ _)
    · exact hfound (Number.shows_read _ _)
    · exact hfound (.map (tells_readStringBody _) fun p => isOneLine_string p.1)
    · exact hfound (.ok (by decide) _)
    · exact hfound (.ok (by decide) _)
    · exact .failAfter (by decide)

/-! ## Readers -/

theorem tells_readString (s : List Char) : Tells (readString s) := by
  rw [readString]
  split
  · exact .failAfter (by decide)
  · split_ifs
    · exact tells_readStringBody _
    · exact tells_wrongType (by decide) _

theorem tells_readOptional {read : Reader α} (h : ∀ s, Tells (read s)) (s : List Char) :
    Tells (readOptional read s) := by
  rw [readOptional]
  split
  · exact .failAfter (by decide)
  · split_ifs
    · exact (tells_readIdent _ _).map _
    · exact (h _).map _

theorem tells_readOrEmpty [Inhabited α] {read : Reader α} (h : ∀ s, Tells (read s))
    (s : List Char) : Tells (readOrEmpty read s) :=
  (tells_readOptional h s).map _

theorem tells_nextItem (first : Bool) (s : List Char) : Tells (nextItem first s) := by
  rw [nextItem]
  split
  · exact .failAfter (by decide)
  · split_ifs
    · exact .ok _
    · exact .ok _
    · split
      · exact .failAfter (by decide)
      · split_ifs
        · exact .failAfter (by decide)
        · exact .ok _
    · exact .failAfter (by decide)

theorem tells_readItems {read : Reader α} (h : ∀ s, Tells (read s)) (fuel : Nat) (first : Bool)
    (s : List Char) : Tells (readItems read fuel first s) := by
  induction fuel generalizing first s with
  | zero => exact .failAfter (by decide)
  | succ fuel ih =>
    rw [readItems]
    refine (tells_nextItem first s).bind fun p => ?_
    dsimp only
    split_ifs
    · exact (h p.2).bind fun q => (ih false q.2).bind fun _ => .ok _
    · exact .ok _

theorem tells_readList {read : Reader α} (h : ∀ s, Tells (read s)) (s : List Char) :
    Tells (readList read s) := by
  rw [readList]
  split
  · exact .failAfter (by decide)
  · split_ifs
    · exact tells_readItems h _ _ _
    · exact tells_wrongType (by decide) _

theorem tells_nextKey (first : Bool) (s : List Char) : Tells (nextKey first s) := by
  rw [nextKey]
  split
  · exact .failAfter (by decide)
  · split_ifs
    · exact .ok _
    · exact .ok _
    · exact .failAfter (by decide)
    · split
      · exact .failAfter (by decide)
      · split_ifs
        · exact .ok _
        · exact .failAfter (by decide)
        · exact .failAfter (by decide)
    · exact .failAfter (by decide)

theorem tells_readColon (s : List Char) : Tells (readColon s) := by
  rw [readColon]
  split
  · exact .failAfter (by decide)
  · split_ifs
    · exact .ok _
    · exact .failAfter (by decide)

/-! ## Records -/

/-- Why a computation stops, placed or not. -/
def Stop.why : Stop → Cause
  | .placed f => f.cause
  | .unplaced cause _ => cause

/-- Whatever stops the computation is told in one line. -/
def TellsStop (x : Except Stop α) : Prop := ∀ stop, x = .error stop → IsOneLine stop.why.describe

namespace TellsStop

theorem ok (a : α) : TellsStop (.ok a) := nofun

theorem unplaced {rest : List Char} (h : IsOneLine cause.describe) :
    TellsStop (.error (.unplaced cause rest) : Except Stop α) := by
  rintro stop ⟨⟩
  exact h

theorem placed {x : Except Failure α} (h : Tells x) : TellsStop (placed x) := by
  intro stop hstop
  cases x with
  | ok a => cases hstop
  | error f =>
    obtain rfl := Except.error.inj hstop
    exact h f rfl

theorem bind {x : Except Stop α} {f : α → Except Stop β} (hx : TellsStop x)
    (hf : ∀ a, TellsStop (f a)) : TellsStop (x >>= f) := by
  intro stop h
  rcases bind_eq_error.mp h with h | ⟨a, -, h⟩
  · exact hx stop h
  · exact hf a stop h

end TellsStop

namespace Shape

/-- The label and the keys of the record are on one line each, and its fields are read so that every
failure is told in one. -/
structure IsTold (shape : Shape σ) : Prop where
  label : IsOneLine shape.label
  keys : ∀ f ∈ shape.fields, IsOneLine f.key
  fields : ∀ f ∈ shape.fields, ∀ s, Tells (f.read s)

variable {shape : Shape σ}

theorem tells_closeArray (s : List Char) : Tells (closeArray s) := by
  rw [closeArray]
  split
  · exact .failAfter (by decide)
  · split_ifs
    · exact .ok _
    · split
      · exact .failAfter (by decide)
      · refine .failAfter ?_
        split_ifs <;> decide
    · exact .failAfter (by decide)

theorem IsTold.readMembers (h : shape.IsTold) (fuel : Nat) (first : Bool) (seen : List String)
    (record : σ) (s : List Char) : TellsStop (shape.readMembers fuel first seen record s) := by
  induction fuel generalizing first seen record s with
  | zero => exact .placed (.failAfter (by decide))
  | succ fuel ih =>
    rw [Shape.readMembers]
    refine (TellsStop.placed (tells_nextKey first s)).bind fun p => ?_
    dsimp only
    split_ifs
    · refine (TellsStop.placed (tells_readStringBody _)).bind fun q => ?_
      split
      · refine (TellsStop.placed ?_).bind fun r => ih false seen record r
        exact (tells_readColon _).bind tells_skipValue
      · next f hfind =>
        have hmem := List.mem_of_find?_eq_some hfind
        obtain hkey : f.key = q.1 := by simpa using List.find?_some hfind
        split_ifs
        · refine .unplaced (isOneLine_duplicateField ?_)
          rw [← hkey]
          exact h.keys f hmem
        · refine (TellsStop.placed ?_).bind fun r => ih _ _ _ _
          exact (tells_readColon _).bind (h.fields f hmem)
    · split
      · next key hmissing =>
        refine .unplaced ?_
        rw [firstMissing?, Option.map_eq_some_iff] at hmissing
        obtain ⟨f, hfind, rfl⟩ := hmissing
        exact isOneLine_missingField (h.keys f (List.mem_of_find?_eq_some hfind))
      · exact .ok _

theorem IsTold.readPositions (h : shape.IsTold) {fields : List (Field σ)}
    (hfields : ∀ f ∈ fields, ∀ s, Tells (f.read s)) (first : Bool) (count : Nat) (record : σ)
    (s : List Char) : TellsStop (shape.readPositions fields first count record s) := by
  induction fields generalizing first count record s with
  | nil => exact .ok _
  | cons f fields ih =>
    obtain ⟨hf, hfields⟩ := List.forall_mem_cons.mp hfields
    rw [Shape.readPositions]
    refine (TellsStop.placed (tells_nextItem first s)).bind fun p => ?_
    dsimp only
    split_ifs
    · exact (TellsStop.placed (hf _)).bind fun q => ih hfields _ _ _ _
    · exact .unplaced (isOneLine_wrongLength h.label _ _)
    · exact ih hfields _ _ _ _

theorem IsTold.read (h : shape.IsTold) (s : List Char) : Tells (shape.read s) := by
  have hmembers := fun fuel s => h.readMembers fuel true [] shape.blank s
  have hpositions := fun s => h.readPositions h.fields true 0 shape.blank s
  rw [Shape.read]
  split
  · exact .failAfter (by decide)
  · split_ifs
    · split
      · exact .ok _
      · next f hstop =>
        rintro _ ⟨⟩
        exact hmembers _ _ _ hstop
      · next cause rest hstop => exact .failAt (hmembers _ _ _ hstop)
    · split
      · exact (tells_closeArray _).map _
      · next f hstop =>
        rintro _ ⟨⟩
        exact hpositions _ _ hstop
      · next cause rest hstop => exact .failAt (hpositions _ _ hstop)
    · exact tells_wrongType h.label _

end Shape

/-- So does the message about a whole text. -/
theorem isOneLine_message {read : Reader α} (h : ∀ s, Tells (read s)) {text : String} {e : Error}
    (hread : readDocument read text = .error e) : IsOneLine e.message := by
  have hcause : IsOneLine e.cause.describe := by
    rw [readDocument] at hread
    split at hread
    · next f hf =>
      obtain rfl := Except.error.inj hread
      exact h _ f hf
    · split at hread
      · cases hread
      · obtain rfl := Except.error.inj hread
        exact (by decide : IsOneLine Cause.trailingCharacters.describe)
  have hline : IsOneLine " at line " := by decide
  have hcolumn : IsOneLine " column " := by decide
  exact (((hcause.append hline).append (isOneLine_toString _)).append hcolumn).append
    (isOneLine_toString _)

end ServiceStubs.Json
