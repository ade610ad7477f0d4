import ServiceStubs.Yaml.Cursor
import ServiceStubs.Yaml.Token

/-!
# Directives, anchors and tags of YAML

A directive fills its own line.  Anchors and aliases are named by words.  A tag is a handle with
a suffix, or a whole address in angle brackets.
-/

namespace ServiceStubs.Yaml

/-! ## Tags -/

/-- A sign that the address of a tag may hold; the last three only in a whole address. -/
def isAddressChar (whole : Bool) (c : Char) : Bool :=
  isWordChar c || ";/?:@&=+$.%!~*'()".toList.contains c || whole && ",[]".toList.contains c

/-- The value of an octet written as two hexadecimal digits. -/
def octet? : List Char → Option (Nat × List Char)
  | '%' :: a :: b :: s =>
    match digit? a, digit? b with
    | some a, some b => some (a * 16 + b, s)
    | _, _ => none
  | _ => none
where
  /-- The value of a hexadecimal digit. -/
  digit? (c : Char) : Option Nat :=
    "0123456789abcdef".toList.idxOf? c <|> "0123456789ABCDEF".toList.idxOf? c

/-- How many octets a character takes, from its first one. -/
def octetCount? (first : Nat) : Option Nat :=
  if first < 0x80 then some 1
  else if 0xC0 ≤ first && first < 0xE0 then some 2
  else if 0xE0 ≤ first && first < 0xF0 then some 3
  else if 0xF0 ≤ first && first < 0xF8 then some 4
  else none

/-- Reads further octets of a character. -/
def furtherOctets? : Nat → List Char → Option (List Nat × List Char)
  | 0, s => some ([], s)
  | n + 1, s => do
    let (o, s) ← octet? s
    if 0x80 ≤ o && o < 0xC0 then
      let (os, s) ← furtherOctets? n s
      return (o :: os, s)
    else none

/-- Reads a character that is written as octets. -/
def escapedChar? (s : List Char) : Option (List Nat × List Char) := do
  let (first, s) ← octet? s
  let n ← octetCount? first
  let (os, s) ← furtherOctets? (n - 1) s
  return (first :: os, s)

/-- Reads the address of a tag; octets are kept as the characters of their numbers. -/
def address? (whole : Bool) : Nat → List Char → Option (List Char × List Char)
  | 0, s => some ([], s)
  | n + 1, s =>
    match s with
    | [] => some ([], [])
    | c :: r =>
      if !isAddressChar whole c then some ([], s)
      else if c == '%' then do
        let (os, r) ← escapedChar? s
        let (cs, r) ← address? whole n r
        return (os.map Char.ofNat ++ cs, r)
      else do
        let (cs, r) ← address? whole n r
        return (c :: cs, r)

/-- Reads the handle of a tag: a mark, and perhaps a word and another mark. -/
def handle? : List Char → Option (List Char × List Char)
  | '!' :: s =>
    let word := s.takeWhile isWordChar
    match s.dropWhile isWordChar with
    | '!' :: r => some ('!' :: word ++ ['!'], r)
    | r => some ('!' :: word, r)
  | _ => none

/-- The characters that have been taken from a text. -/
def Cursor.moveTo (c : Cursor) (rest : List Char) : Cursor :=
  c.advance (c.rest.length - rest.length)

/-- Reads a tag.  After it a word has to end; inside flow collections a comma may follow. -/
def tag? (inFlow : Bool) (c : Cursor) : Option (Token × Cursor) := do
  let (handle, suffix, rest) ← match c.rest with
    | '!' :: '<' :: s => do
      let (address, r) ← address? true (s.length + 1) s
      match r with
      | '>' :: r => if address.isEmpty then none else some ([], address, r)
      | _ => none
    | s => do
      let (handle, r) ← handle? s
      let (address, r) ← address? false (r.length + 1) r
      if 1 < handle.length && handle.getLast? == some '!' then
        if address.isEmpty then none else some (handle, address, r)
      else
        let suffix := handle.drop 1 ++ address
        if suffix.isEmpty then some ([], ['!'], r) else some (['!'], suffix, r)
  if endsWord rest || inFlow && rest.head? == some ',' then
    some (.tag (String.ofList handle) (String.ofList suffix), c.moveTo rest)
  else none

/-! ## Anchors -/

/-- Reads the name of an anchor or an alias, after its sign. -/
def anchorName? (c : Cursor) : Option (String × Cursor) :=
  let name := c.rest.takeWhile isWordChar
  let c := c.advance name.length
  let ends := match c.rest with
    | [] => true
    | d :: _ => endsWord c.rest || "?:,]\x7d%@`".toList.contains d
  if name.isEmpty || !ends then none else some (String.ofList name, c)

/-! ## Directives -/

/-- Reads a number of at most nine digits. -/
def number? (s : List Char) : Option (Nat × List Char) :=
  let digits := s.takeWhile Char.isDigit
  if digits.isEmpty || 9 < digits.length then none
  else some (digits.foldl (fun n c => n * 10 + (c.toNat - '0'.toNat)) 0, s.dropWhile Char.isDigit)

/-- Reads the numbers of a version. -/
def version? (s : List Char) : Option (Token × List Char) := do
  let (major, s) ← number? (s.dropWhile isSpacing)
  match s with
  | '.' :: s =>
    let (minor, s) ← number? s
    return (.version major minor, s)
  | _ => none

/-- Reads a handle and what it stands for. -/
def tagHandle? (s : List Char) : Option (Token × List Char) := do
  let (handle, s) ← handle? (s.dropWhile isSpacing)
  if 1 < handle.length && handle.getLast? != some '!' then none
  else if !(s.take 1).any isSpacing then none
  else
    let s := s.dropWhile isSpacing
    let (address, s) ← address? true (s.length + 1) s
    if address.isEmpty || !endsWord s then none
    else return (.tagHandle (String.ofList handle) (String.ofList address), s)

/-- Reads a directive after its sign, to the end of its line. -/
def directive? (c : Cursor) : Option (Token × Cursor) := do
  let name := c.rest.takeWhile isWordChar
  let s := c.rest.dropWhile isWordChar
  if !endsWord s then none
  else
    let (t, s) ← match String.ofList name with
      | "YAML" => version? s
      | "TAG" => tagHandle? s
      | _ => none
    let c ← (c.moveTo s).finishLine
    return (t, c)

end ServiceStubs.Yaml
