import ServiceStubs.Text.Identifier

/-!
# Literals of Rust

Each scanner takes the characters from the start of a literal and gives what is left after it,
or nothing if there is no such literal.  The scanner of cooked strings also gives the value.
-/

namespace ServiceStubs.Rust.Literal

open ServiceStubs.Text.Identifier (isStart isPart)

/-- Drops an expected beginning. -/
def strip? : List Char → List Char → Option (List Char)
  | [], s => some s
  | _ :: _, [] => none
  | p :: ps, c :: s => if p = c then strip? ps s else none

/-- What is left after a literal's suffix, if there is one. -/
def afterSuffix : List Char → List Char
  | [] => []
  | c :: s => if isStart c then s.dropWhile isPart else c :: s

/-- The value of a hexadecimal digit. -/
def hexDigit? (c : Char) : Option Nat :=
  if '0' ≤ c && c ≤ '9' then some (c.toNat - '0'.toNat)
  else if 'a' ≤ c && c ≤ 'f' then some (c.toNat - 'a'.toNat + 10)
  else if 'A' ≤ c && c ≤ 'F' then some (c.toNat - 'A'.toNat + 10)
  else none

/-! ## Escapes -/

/-- What a kind of string or character literal may hold. -/
structure Kind where
  /-- Characters beyond ASCII, and escapes by code point. -/
  unicode : Bool
  /-- Two-digit escapes beyond ASCII. -/
  highBytes : Bool
  /-- The character NUL, in any spelling. -/
  nul : Bool

/-- Plain strings and characters. -/
def plain : Kind := ⟨true, false, true⟩

/-- Byte strings and bytes. -/
def bytes : Kind := ⟨false, true, true⟩

/-- Strings that end in NUL and so hold none. -/
def nulEnded : Kind := ⟨true, true, false⟩

/-- The character of a one-letter escape. -/
def letterEscape? (c : Char) : Option Char :=
  if c = 'n' then some '\n'
  else if c = 'r' then some '\r'
  else if c = 't' then some '\t'
  else if c = '\\' then some '\\'
  else if c = '\'' then some '\''
  else if c = '"' then some '"'
  else if c = '0' then some '\x00'
  else none

/-- Reads the digits of an escape by code point, up to and with the closing brace: at most six
digits, with underscores after the first. -/
def codePoint? : Nat → Nat → List Char → Option (Nat × List Char)
  | _, _, [] => none
  | digits, value, c :: s =>
    if c = '_' && digits ≠ 0 then codePoint? digits value s
    else if c = '\x7d' && digits ≠ 0 then some (value, s)
    else match hexDigit? c with
      | some d => if digits = 6 then none else codePoint? (digits + 1) (value * 16 + d) s
      | none => none

/-- A number that is a character. -/
def character? (n : Nat) : Option Char :=
  if n.isValidChar then some (Char.ofNat n) else none

/-- Reads an escape after its backslash, other than one that continues a line. -/
def escape? (k : Kind) : List Char → Option (Char × List Char)
  | 'x' :: a :: b :: s =>
    match hexDigit? a, hexDigit? b with
    | some a, some b =>
      if !k.highBytes && 8 ≤ a || !k.nul && a = 0 && b = 0 then none
      else some (Char.ofNat (a * 16 + b), s)
    | _, _ => none
  | 'u' :: '\x7b' :: s =>
    if k.unicode then do
      let (n, s) ← codePoint? 0 0 s
      let c ← character? n
      if !k.nul && n = 0 then none else some (c, s)
    else none
  | c :: s => do
    let d ← letterEscape? c
    if !k.nul && d = '\x00' then none else some (d, s)
  | [] => none

/-- Passes the blanks at the start of the line that a backslash at a line end continues with. -/
def afterLineEnd : List Char → Option (List Char)
  | [] => none
  | '\r' :: '\n' :: s => afterLineEnd s
  | '\r' :: _ => none
  | c :: s => if c = ' ' || c = '\t' || c = '\n' then afterLineEnd s else some (c :: s)

/-! ## Strings and characters -/

/-- Reads a cooked string after its opening quote: the value, and what follows the closing
quote. -/
def cooked? (k : Kind) : Nat → List Char → Option (List Char × List Char)
  | 0, _ => none
  | _ + 1, [] => none
  | _ + 1, '"' :: s => some ([], s)
  | fuel + 1, '\r' :: s =>
    match s with
    | '\n' :: s => (cooked? k fuel s).map fun (v, r) => ('\n' :: v, r)
    | _ => none
  | fuel + 1, '\\' :: s =>
    match s with
    | '\n' :: s => afterLineEnd s >>= cooked? k fuel
    | '\r' :: '\n' :: s => afterLineEnd s >>= cooked? k fuel
    | s => do
      let (c, s) ← escape? k s
      let (v, r) ← cooked? k fuel s
      return (c :: v, r)
  | fuel + 1, c :: s =>
    if !k.unicode && 128 ≤ c.toNat || !k.nul && c = '\x00' then none
    else (cooked? k fuel s).map fun (v, r) => (c :: v, r)

/-- The value of a plain string literal that is the whole text. -/
def stringValue? (spelling : List Char) : Option (List Char) :=
  match spelling with
  | '"' :: s =>
    match cooked? plain (s.length + 1) s with
    | some (v, []) => some v
    | _ => none
  | _ => none

/-- Passes the content and the closing quote of a raw string whose quotes carry hashes. -/
def afterRaw (k : Kind) (hashes : List Char) : List Char → Option (List Char)
  | [] => none
  | '"' :: s =>
    match strip? hashes s with
    | some r => some r
    | none => afterRaw k hashes s
  | '\r' :: '\n' :: s => afterRaw k hashes s
  | '\r' :: _ => none
  | c :: s =>
    if !k.unicode && 128 ≤ c.toNat || !k.nul && c = '\x00' then none else afterRaw k hashes s

/-- Passes a raw string after its letters: hashes, a quote, and the content. -/
def raw? (k : Kind) (s : List Char) : Option (List Char) :=
  let hashes := s.takeWhile (· == '#')
  match s.dropWhile (· == '#') with
  | '"' :: r =>
    if 255 < hashes.length then none else (afterRaw k hashes r).map afterSuffix
  | _ => none

/-- Passes a cooked string after its opening quote. -/
def afterCooked (k : Kind) (s : List Char) : Option (List Char) :=
  (cooked? k (s.length + 1) s).map fun (_, r) => afterSuffix r

/-- Passes a string of one kind: the cooked and the raw beginning are given. -/
def string? (k : Kind) (cookedStart rawStart s : List Char) : Option (List Char) :=
  match strip? cookedStart s with
  | some r => afterCooked k r
  | none => strip? rawStart s >>= raw? k

/-- Passes the content of a character or byte literal. -/
def oneCharacter? (k : Kind) : List Char → Option (List Char)
  | [] => none
  | '\\' :: s => (escape? k s).map Prod.snd
  | c :: s => if !k.unicode && 128 ≤ c.toNat then none else some s

/-- Passes a character or byte literal with the given beginning. -/
def character (k : Kind) (start s : List Char) : Option (List Char) := do
  let s ← strip? start s
  match ← oneCharacter? k s with
  | '\'' :: r => some (afterSuffix r)
  | _ => none

/-! ## Numbers -/

/-- A digit or an underscore. -/
def isDigitOrGap (c : Char) : Bool := c.isDigit || c == '_'

/-- Passes a suffix if an identifier starts here; no identifier character may be left. -/
def endNumber (s : List Char) : Option (List Char) :=
  match afterSuffix s with
  | [] => some []
  | c :: r => if isPart c then none else some (c :: r)

/-- Passes the signs, digits and underscores of an exponent after its letter: whether there is
a digit, and what is left.  Two signs in a row are no exponent. -/
def exponent? : Bool → Bool → List Char → Option (Bool × List Char)
  | _, digit, [] => some (digit, [])
  | sign, digit, c :: s =>
    if c = '+' || c = '-' then
      if digit then some (digit, c :: s)
      else if sign then none
      else exponent? true digit s
    else if c.isDigit then exponent? sign true s
    else if c = '_' then exponent? sign digit s
    else some (digit, c :: s)

/-- Goes on with an exponent after its letter; without one, the number ends before the
letter if it has a point, and is no floating number otherwise. -/
def withExponent (hasPoint : Bool) (letter : Char) (s : List Char) : Option (List Char) :=
  match exponent? false false s with
  | some (true, r) => some r
  | _ => if hasPoint then some (letter :: s) else none

/-- Passes what follows the point of a floating number. -/
def afterPoint (s : List Char) : Option (List Char) :=
  match s with
  | [] => some []
  | c :: _ =>
    if c = '.' || isStart c then none
    else match s.dropWhile isDigitOrGap with
      | 'e' :: r => withExponent true 'e' r
      | 'E' :: r => withExponent true 'E' r
      | r => some r

/-- Passes a floating number: digits with a point, an exponent, or both. -/
def float? : List Char → Option (List Char)
  | [] => none
  | c :: s =>
    if c.isDigit then do
      let r ← match s.dropWhile isDigitOrGap with
        | '.' :: r => afterPoint r
        | 'e' :: r => withExponent false 'e' r
        | 'E' :: r => withExponent false 'E' r
        | _ => none
      endNumber r
    else none

/-- Passes digits of a base: whether there was one, and what is left.  A decimal digit beyond
the base is refused; a letter beyond it ends the digits. -/
def digits? (base : Nat) : Bool → List Char → Option (Bool × List Char)
  | found, [] => some (found, [])
  | found, c :: s =>
    if c = '_' then if !found && base = 10 then none else digits? base found s
    else match hexDigit? c with
      | some d =>
        if d < base then digits? base true s
        else if c.isDigit then none
        else some (found, c :: s)
      | none => some (found, c :: s)

/-- Passes the digits of a whole number after its base mark. -/
def wholeDigits? (base : Nat) (s : List Char) : Option (List Char) :=
  match digits? base false s with
  | some (true, r) => some r
  | _ => none

/-- Passes a whole number. -/
def whole? (s : List Char) : Option (List Char) := do
  let r ← match s with
    | '0' :: 'x' :: r => wholeDigits? 16 r
    | '0' :: 'o' :: r => wholeDigits? 8 r
    | '0' :: 'b' :: r => wholeDigits? 2 r
    | r => wholeDigits? 10 r
  endNumber r

/-! ## All of them -/

/-- Passes a literal of any kind; the first kind that fits counts. -/
def pass? (s : List Char) : Option (List Char) :=
  string? plain ['"'] ['r'] s
    <|> string? bytes ['b', '"'] ['b', 'r'] s
    <|> string? nulEnded ['c', '"'] ['c', 'r'] s
    <|> character bytes ['b', '\''] s
    <|> character plain ['\''] s
    <|> float? s
    <|> whole? s

end ServiceStubs.Rust.Literal
