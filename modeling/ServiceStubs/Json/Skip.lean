import ServiceStubs.Json.Reader

/-!
# Values that nobody asked for

The value of an unknown key is checked for its grammar and forgotten.  Its numbers have no
range and its escapes need not pair up.
-/

namespace ServiceStubs.Json

/-! ## Strings and numbers -/

/-- Passes one escape after its backslash. -/
def skipEscape : List Char → Except Failure (List Char)
  | [] => failAt .endInString []
  | c :: rest =>
    if c = 'u' then (readHex4 rest).map Prod.snd
    else match escapeChar? c with
      | some _ => .ok rest
      | none => failAfter .invalidEscape (c :: rest)

/-- Passes characters up to and with the closing quote. -/
def skipChars : Nat → List Char → Except Failure (List Char)
  | 0, s => failAt .endInString s
  | _ + 1, [] => failAt .endInString []
  | fuel + 1, c :: rest =>
    if c = '"' then .ok rest
    else if c = '\\' then skipEscape rest >>= skipChars fuel
    else if c.toNat < 0x20 then failAt .controlCharacter (c :: rest)
    else skipChars fuel rest

/-- Passes a string after its opening quote. -/
def skipString (s : List Char) : Except Failure (List Char) :=
  skipChars (s.length + 1) s

/-- Passes an exponent after its letter. -/
def skipExponent (s : List Char) : Except Failure (List Char) :=
  let s := match s with
    | '+' :: r => r
    | '-' :: r => r
    | r => r
  match s with
  | [] => failAt .invalidNumber []
  | c :: rest =>
    if c.isDigit then .ok (rest.dropWhile Char.isDigit) else failAfter .invalidNumber s

/-- Passes an exponent if there is one. -/
def skipNumberTail : List Char → Except Failure (List Char)
  | 'e' :: r => skipExponent r
  | 'E' :: r => skipExponent r
  | r => .ok r

/-- Passes the digits after the point and what follows them. -/
def skipFraction : List Char → Except Failure (List Char)
  | [] => failAfter .invalidNumber []
  | c :: rest =>
    if c.isDigit then skipNumberTail (rest.dropWhile Char.isDigit)
    else failAfter .invalidNumber (c :: rest)

/-- Passes a number after its sign. -/
def skipNumber (s : List Char) : Except Failure (List Char) :=
  match s with
  | [] => failAt .invalidNumber []
  | c :: rest =>
    if !c.isDigit then failAfter .invalidNumber s
    else if c = '0' && (rest.head?.map Char.isDigit).getD false then
      failAfter .invalidNumber rest
    else match (if c = '0' then rest else rest.dropWhile Char.isDigit) with
      | '.' :: r => skipFraction r
      | r => skipNumberTail r

/-! ## Values and their contents -/

/-- What a container reports when the text ends in it. -/
def endIn (list : Bool) : Cause :=
  if list then .endInList else .endInObject

/-- What a container reports when neither a comma nor its end follows an item. -/
def expectedEndOf (list : Bool) : Cause :=
  if list then .expectedListEnd else .expectedObjectEnd

/-- Whether a character closes the container. -/
def closes (list : Bool) (c : Char) : Bool :=
  c == if list then ']' else '\x7d'

/-- Passes a key and its colon; the blanks before it are passed already. -/
def skipKey : List Char → Except Failure (List Char)
  | [] => failAfter .endInObject []
  | c :: rest =>
    if c = '"' then do
      let rest ← skipString rest
      match skipBlanks rest with
      | [] => failAfter .endInObject []
      | d :: rest =>
        if d = ':' then .ok rest else failAfter .expectedColon (d :: rest)
    else failAfter .keyNotString (c :: rest)

mutual

/-- Passes one value. -/
def skipValueWith : Nat → List Char → Except Failure (List Char)
  | 0, s => failAfter .endInValue s
  | fuel + 1, s =>
    match skipBlanks s with
    | [] => failAfter .endInValue []
    | c :: rest =>
      if c = 'n' then readIdent ['u', 'l', 'l'] rest
      else if c = 't' then readIdent ['r', 'u', 'e'] rest
      else if c = 'f' then readIdent ['a', 'l', 's', 'e'] rest
      else if c = '"' then skipString rest
      else if c = '-' then skipNumber rest
      else if c.isDigit then skipNumber (c :: rest)
      else if c = '[' then skipOpened fuel true rest
      else if c = '\x7b' then skipOpened fuel false rest
      else failAfter .expectedValue (c :: rest)

/-- Passes the contents of a container just opened. -/
def skipOpened : Nat → Bool → List Char → Except Failure (List Char)
  | 0, _, s => failAfter .endInValue s
  | fuel + 1, list, s =>
    match skipBlanks s with
    | [] => failAfter (endIn list) []
    | c :: rest => if closes list c then .ok rest else skipItem fuel list (c :: rest)

/-- Passes an item, and all that follow it in the container. -/
def skipItem : Nat → Bool → List Char → Except Failure (List Char)
  | 0, _, s => failAfter .endInValue s
  | fuel + 1, list, s => do
    let s ← if list then .ok s else skipKey (skipBlanks s)
    let s ← skipValueWith fuel s
    match skipBlanks s with
    | [] => failAfter (endIn list) []
    | c :: rest =>
      if c = ',' then skipItem fuel list rest
      else if closes list c then .ok rest
      else failAfter (expectedEndOf list) (c :: rest)

end

/-- Passes one value of any kind. -/
def skipValue (s : List Char) : Except Failure (List Char) :=
  skipValueWith (3 * s.length + 3) s

end ServiceStubs.Json
