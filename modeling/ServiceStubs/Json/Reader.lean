import ServiceStubs.Json.Failure

/-!
# Reading tokens of a JSON document

A reader takes the unread characters and gives a value and what is left, or a failure.  A
failure stands either at the unread rest or, for a byte that was only looked at, just behind
that byte.
-/

namespace ServiceStubs.Json

/-- A reader of one thing at the start of a text. -/
abbrev Reader (α : Type) := List Char → Except Failure (α × List Char)

/-- A failure at the start of the rest. -/
def failAt {α : Type} (cause : Cause) (rest : List Char) : Except Failure α :=
  .error ⟨cause, byteLength rest⟩

/-- A failure behind the first byte of the rest, or at the end of the text if nothing is left. -/
def failAfter {α : Type} (cause : Cause) (rest : List Char) : Except Failure α :=
  .error ⟨cause, byteLength rest - 1⟩

/-- The four blanks of JSON. -/
def isJsonBlank (c : Char) : Bool :=
  c == ' ' || c == '\n' || c == '\t' || c == '\r'

/-- What follows the blanks. -/
def skipBlanks (s : List Char) : List Char :=
  s.dropWhile isJsonBlank

/-- Consumes the rest of a literal whose first letter was seen. -/
def readIdent : List Char → List Char → Except Failure (List Char)
  | [], rest => .ok rest
  | _ :: _, [] => failAt .endInValue []
  | e :: expected, c :: rest =>
    if c = e then readIdent expected rest else failAfter .expectedIdent (c :: rest)

/-! ## Strings -/

/-- The value of a hexadecimal digit of either case. -/
def hexValue? (c : Char) : Option Nat :=
  if '0' ≤ c && c ≤ '9' then some (c.toNat - '0'.toNat)
  else if 'a' ≤ c && c ≤ 'f' then some (c.toNat - 'a'.toNat + 10)
  else if 'A' ≤ c && c ≤ 'F' then some (c.toNat - 'A'.toNat + 10)
  else none

/-- Reads the four digits of a numeric escape. -/
def readHex4 (s : List Char) : Except Failure (Nat × List Char) :=
  if byteLength s < 4 then failAt .endInString []
  else match s with
    | a :: b :: c :: d :: rest =>
      match hexValue? a, hexValue? b, hexValue? c, hexValue? d with
      | some a, some b, some c, some d => .ok (((a * 16 + b) * 16 + c) * 16 + d, rest)
      | _, _, _, _ => .error ⟨.invalidEscape, byteLength s - 4⟩
    | _ => .error ⟨.invalidEscape, byteLength s - 4⟩

/-- The character of an escape letter other than `u`. -/
def escapeChar? (c : Char) : Option Char :=
  if c = '"' then some '"'
  else if c = '\\' then some '\\'
  else if c = '/' then some '/'
  else if c = 'b' then some '\x08'
  else if c = 'f' then some '\x0c'
  else if c = 'n' then some '\n'
  else if c = 'r' then some '\r'
  else if c = 't' then some '\t'
  else none

/-- The first half of a surrogate pair. -/
def isLeading (n : Nat) : Bool := 0xD800 ≤ n && n ≤ 0xDBFF

/-- The second half of a surrogate pair. -/
def isTrailing (n : Nat) : Bool := 0xDC00 ≤ n && n ≤ 0xDFFF

/-- Consumes one expected character between the halves of a pair. -/
def readBetween (expected : Char) : List Char → Except Failure (List Char)
  | [] => failAt .endInString []
  | c :: rest => if c = expected then .ok rest else failAfter .unfinishedPair (c :: rest)

/-- Reads a numeric escape after its `u`: one unit, or two that form a pair. -/
def readUnicodeEscape (s : List Char) : Except Failure (Char × List Char) := do
  let (n, rest) ← readHex4 s
  if isTrailing n then failAt .loneSurrogate rest
  else if isLeading n then
    let rest ← readBetween '\\' rest
    let rest ← readBetween 'u' rest
    let (m, rest) ← readHex4 rest
    if isTrailing m then
      .ok (Char.ofNat (0x10000 + (n - 0xD800) * 0x400 + (m - 0xDC00)), rest)
    else failAt .loneSurrogate rest
  else .ok (Char.ofNat n, rest)

/-- Reads one escape after its backslash. -/
def readEscape : List Char → Except Failure (Char × List Char)
  | [] => failAt .endInString []
  | c :: rest =>
    if c = 'u' then readUnicodeEscape rest
    else match escapeChar? c with
      | some d => .ok (d, rest)
      | none => failAfter .invalidEscape (c :: rest)

/-- Reads characters up to and with the closing quote. -/
def readChars : Nat → Reader (List Char)
  | 0, s => failAt .endInString s
  | _ + 1, [] => failAt .endInString []
  | fuel + 1, c :: rest =>
    if c = '"' then .ok ([], rest)
    else if c = '\\' then do
      let (d, rest) ← readEscape rest
      let (ds, rest) ← readChars fuel rest
      .ok (d :: ds, rest)
    else if c.toNat < 0x20 then failAfter .controlCharacter (c :: rest)
    else do
      let (ds, rest) ← readChars fuel rest
      .ok (c :: ds, rest)

/-- Reads a string after its opening quote. -/
def readStringBody : Reader String := fun s => do
  let (cs, rest) ← readChars (s.length + 1) s
  .ok (String.ofList cs, rest)

end ServiceStubs.Json
