import ServiceStubs.Json.Number
import ServiceStubs.Json.Skip
import ServiceStubs.Text.Quoted

/-!
# Reading records

The documents of this library are nested records with named fields.  A record is an object
whose keys come in any order, or an array that gives the fields in order.  Unknown keys are
passed over, a repeated key is refused, and a missing one is refused when it is required.
-/

namespace ServiceStubs.Json

/-- Names the value at the start of the text and reports it as the wrong kind. -/
def wrongType {α : Type} (expected : String) (s : List Char) : Except Failure α := do
  let (found, rest) ← match s with
    | [] => failAfter .endInValue []
    | c :: rest =>
      if c = 'n' then (readIdent ['u', 'l', 'l'] rest).map fun r => (Found.null, r)
      else if c = 't' then (readIdent ['r', 'u', 'e'] rest).map fun r => (Found.boolean true, r)
      else if c = 'f' then
        (readIdent ['a', 'l', 's', 'e'] rest).map fun r => (Found.boolean false, r)
      else if c = '-' then Number.read false rest
      else if c.isDigit then Number.read true (c :: rest)
      else if c = '"' then
        (readStringBody rest).map fun (v, r) => (Found.string (Text.quoted v), r)
      else if c = '[' then .ok (Found.sequence, c :: rest)
      else if c = '\x7b' then .ok (Found.map, c :: rest)
      else failAfter .expectedValue (c :: rest)
  failAt (.wrongType found expected) rest

/-- Reads a string. -/
def readString : Reader String := fun s =>
  match skipBlanks s with
  | [] => failAfter .endInValue []
  | c :: rest => if c = '"' then readStringBody rest else wrongType "a string" (c :: rest)

/-- Reads a value that may be null. -/
def readOptional {α : Type} (read : Reader α) : Reader (Option α) := fun s =>
  match skipBlanks s with
  | [] => failAfter .endInValue []
  | c :: rest =>
    if c = 'n' then (readIdent ['u', 'l', 'l'] rest).map fun r => (none, r)
    else (read (c :: rest)).map fun (v, r) => (some v, r)

/-- Reads a value for which null means empty. -/
def readOrEmpty {α : Type} [Inhabited α] (read : Reader α) : Reader α := fun s =>
  (readOptional read s).map fun (v, r) => (v.getD default, r)

/-! ## Sequences -/

/-- Looks for the next item of an array: whether there is one, and the text from the item on or
from the closing bracket on. -/
def nextItem (first : Bool) : Reader Bool := fun s =>
  match skipBlanks s with
  | [] => failAfter .endInList []
  | c :: rest =>
    if c = ']' then .ok (false, c :: rest)
    else if first then .ok (true, c :: rest)
    else if c = ',' then
      match skipBlanks rest with
      | [] => failAfter .endInValue []
      | d :: rest =>
        if d = ']' then failAfter .trailingComma (d :: rest) else .ok (true, d :: rest)
    else failAfter .expectedListEnd (c :: rest)

/-- Reads items up to and with the closing bracket. -/
def readItems {α : Type} (read : Reader α) : Nat → Bool → Reader (List α)
  | 0, _, s => failAfter .endInList s
  | fuel + 1, first, s => do
    let (more, s) ← nextItem first s
    if more then
      let (v, s) ← read s
      let (vs, s) ← readItems read fuel false s
      .ok (v :: vs, s)
    else .ok ([], s.drop 1)

/-- Reads an array of items. -/
def readList {α : Type} (read : Reader α) : Reader (List α) := fun s =>
  match skipBlanks s with
  | [] => failAfter .endInValue []
  | c :: rest =>
    if c = '[' then readItems read (rest.length + 1) true rest
    else wrongType "a sequence" (c :: rest)

/-! ## Records -/

/-- A named field of a record under construction. -/
structure Field (σ : Type) where
  key : String
  required : Bool
  read : Reader (σ → σ)

/-- A field read by a reader and stored by a setter. -/
def Field.of {σ α : Type} (key : String) (required : Bool) (read : Reader α)
    (store : α → σ → σ) : Field σ :=
  ⟨key, required, fun s => (read s).map fun (v, r) => (store v, r)⟩

/-- A record: how messages name it, its fields in order, and its value before any is read. -/
structure Shape (σ : Type) where
  label : String
  fields : List (Field σ)
  blank : σ

/-- A failure, or a cause that has no place until its record is closed. -/
inductive Stop where
  | placed (f : Failure)
  | unplaced (cause : Cause) (rest : List Char)

/-- Lifts a failure that has its place. -/
def placed {α : Type} : Except Failure α → Except Stop α
  | .ok a => .ok a
  | .error f => .error (.placed f)

/-- Looks for the next key of an object: whether there is one, and the text behind its opening
quote or from the closing brace on. -/
def nextKey (first : Bool) : Reader Bool := fun s =>
  match skipBlanks s with
  | [] => failAfter .endInObject []
  | c :: rest =>
    if c = '\x7d' then .ok (false, c :: rest)
    else if first then
      if c = '"' then .ok (true, rest) else failAfter .keyNotString (c :: rest)
    else if c = ',' then
      match skipBlanks rest with
      | [] => failAfter .endInValue []
      | d :: rest =>
        if d = '"' then .ok (true, rest)
        else if d = '\x7d' then failAfter .trailingComma (d :: rest)
        else failAfter .keyNotString (d :: rest)
    else failAfter .expectedObjectEnd (c :: rest)

/-- Passes the colon between a key and its value. -/
def readColon (s : List Char) : Except Failure (List Char) :=
  match skipBlanks s with
  | [] => failAfter .endInObject []
  | c :: rest => if c = ':' then .ok rest else failAfter .expectedColon (c :: rest)

namespace Shape

/-- The first required field that was not seen. -/
def firstMissing? {σ : Type} (shape : Shape σ) (seen : List String) : Option String :=
  (shape.fields.find? fun f => f.required && !seen.contains f.key).map Field.key

/-- Reads the members of an object, up to its closing brace. -/
def readMembers {σ : Type} (shape : Shape σ) : Nat → Bool → List String → σ →
    List Char → Except Stop (σ × List Char)
  | 0, _, _, _, s => placed (failAfter .endInObject s)
  | fuel + 1, first, seen, record, s => do
    let (more, s) ← placed (nextKey first s)
    if more then
      let (key, s) ← placed (readStringBody s)
      match shape.fields.find? (·.key == key) with
      | none =>
        let s ← placed (readColon s >>= skipValue)
        readMembers shape fuel false seen record s
      | some field =>
        if seen.contains key then .error (.unplaced (.duplicateField key) s)
        else
          let (set, s) ← placed (readColon s >>= field.read)
          readMembers shape fuel false (key :: seen) (set record) s
    else
      match shape.firstMissing? seen with
      | some key => .error (.unplaced (.missingField key) s)
      | none => .ok (record, s)

/-- Reads fields from array items, in order.  A field beyond the last item keeps its empty
value, if it may. -/
def readPositions {σ : Type} (shape : Shape σ) : List (Field σ) → Bool → Nat → σ →
    List Char → Except Stop (σ × List Char)
  | [], _, _, record, s => .ok (record, s)
  | field :: fields, first, count, record, s => do
    let (more, s) ← placed (nextItem first s)
    if more then
      let (set, s) ← placed (field.read s)
      readPositions shape fields false (count + 1) (set record) s
    else if field.required then
      .error (.unplaced (.wrongLength count shape.label shape.fields.length) s)
    else readPositions shape fields first (count + 1) record s

/-- Where a failure without a place is put: behind the closing brace, if it is next. -/
def afterObject (rest : List Char) : List Char :=
  match skipBlanks rest with
  | '\x7d' :: r => r
  | r => r

/-- Where a failure without a place is put: behind the closing bracket, or behind a comma and
the blanks after it. -/
def afterArray (rest : List Char) : List Char :=
  match skipBlanks rest with
  | ']' :: r => r
  | ',' :: r => skipBlanks r
  | r => r

/-- Closes an array of which every field was read. -/
def closeArray (s : List Char) : Except Failure (List Char) :=
  match skipBlanks s with
  | [] => failAfter .endInList []
  | c :: rest =>
    if c = ']' then .ok rest
    else if c = ',' then
      match skipBlanks rest with
      | [] => failAfter .trailingCharacters []
      | d :: r =>
        failAfter (if d = ']' then .trailingComma else .trailingCharacters) (d :: r)
    else failAfter .trailingCharacters (c :: rest)

/-- Reads a record in either form. -/
def read {σ : Type} (shape : Shape σ) : Reader σ := fun s =>
  match skipBlanks s with
  | [] => failAfter .endInValue []
  | c :: rest =>
    if c = '\x7b' then
      match shape.readMembers (rest.length + 1) true [] shape.blank rest with
      | .ok (record, rest) => .ok (record, rest.drop 1)
      | .error (.placed f) => .error f
      | .error (.unplaced cause rest) => failAt cause (afterObject rest)
    else if c = '[' then
      match shape.readPositions shape.fields true 0 shape.blank rest with
      | .ok (record, rest) => (closeArray rest).map fun r => (record, r)
      | .error (.placed f) => .error f
      | .error (.unplaced cause rest) => failAt cause (afterArray rest)
    else wrongType shape.label (c :: rest)

end Shape

/-! ## Tags -/

/-- Looks up the value of a tag; the rest is what follows its closing quote. -/
def tagValue {α : Type} (tags : List (String × α)) (name : String) (rest : List Char) :
    Except Failure (α × List Char) :=
  match tags.find? (·.1 == name) with
  | some (_, v) => .ok (v, rest)
  | none => failAt (.unknownVariant name (tags.map Prod.fst)) rest

/-- Reads null where a tag carries nothing. -/
def readNothing (s : List Char) : Except Failure (List Char) :=
  match skipBlanks s with
  | [] => failAfter .endInValue []
  | c :: rest =>
    if c = 'n' then readIdent ['u', 'l', 'l'] rest else wrongType "unit" (c :: rest)

/-- Reads one of a few tags, bare or as the only key of an object with a null value. -/
def readTag {α : Type} (tags : List (String × α)) : Reader α := fun s =>
  match skipBlanks s with
  | [] => failAfter .endInValue []
  | c :: rest =>
    if c = '"' then do
      let (name, rest) ← readStringBody rest
      tagValue tags name rest
    else if c = '\x7b' then
      match skipBlanks rest with
      | [] => failAfter .endInValue []
      | d :: rest =>
        if d = '"' then do
          let (name, rest) ← readStringBody rest
          let (v, rest) ← tagValue tags name rest
          let rest ← readColon rest >>= readNothing
          match skipBlanks rest with
          | [] => failAt .endInObject []
          | e :: rest =>
            if e = '\x7d' then .ok (v, rest) else failAt .expectedValue (e :: rest)
        else failAfter (if d = '\x7d' then .expectedValue else .keyNotString) (d :: rest)
    else failAfter .expectedValue (c :: rest)

/-! ## Documents -/

/-- Reads a whole text: one value, with nothing but blanks around it. -/
def readDocument {α : Type} (read : Reader α) (text : String) : Except Error α :=
  let chars := text.toList
  match read chars with
  | .error f => .error (f.locate chars)
  | .ok (v, rest) =>
    match skipBlanks rest with
    | [] => .ok v
    | c :: r =>
      .error ((⟨.trailingCharacters, byteLength (c :: r) - 1⟩ : Failure).locate chars)

end ServiceStubs.Json
