/-!
# Writing JSON

The values that are written, and their two layouts: compact, and pretty with two spaces for
each level.  Members keep their order.  Strings escape quotes, backslashes and the characters
below U+0020, and nothing else.
-/

namespace ServiceStubs.Json

/-- A value to be written. -/
inductive Value where
  | null
  | string (s : String)
  | list (items : List Value)
  | object (members : List (String × Value))

namespace Value

/-- A hexadecimal digit in lower case. -/
def hexDigit (n : Nat) : Char :=
  if n < 10 then Char.ofNat ('0'.toNat + n) else Char.ofNat ('a'.toNat + (n - 10))

/-- The spelling of one character inside a string. -/
def encodeChar (c : Char) : List Char :=
  if c = '"' then ['\\', '"']
  else if c = '\\' then ['\\', '\\']
  else if c = '\x08' then ['\\', 'b']
  else if c = '\x0c' then ['\\', 'f']
  else if c = '\n' then ['\\', 'n']
  else if c = '\r' then ['\\', 'r']
  else if c = '\t' then ['\\', 't']
  else if c.toNat < 0x20 then
    ['\\', 'u', '0', '0', hexDigit (c.toNat / 16), hexDigit (c.toNat % 16)]
  else [c]

/-- A string with its quotes. -/
def encodeString (s : String) : List Char :=
  '"' :: s.toList.flatMap encodeChar ++ ['"']

mutual

/-- The compact layout. -/
def compact : Value → List Char
  | null => ['n', 'u', 'l', 'l']
  | string s => encodeString s
  | list items => '[' :: compactItems items ++ [']']
  | object members => '\x7b' :: compactMembers members ++ ['\x7d']

/-- Items with commas between them. -/
def compactItems : List Value → List Char
  | [] => []
  | [v] => compact v
  | v :: vs => compact v ++ ',' :: compactItems vs

/-- Members with commas between them. -/
def compactMembers : List (String × Value) → List Char
  | [] => []
  | [(k, v)] => encodeString k ++ ':' :: compact v
  | (k, v) :: ms => encodeString k ++ ':' :: compact v ++ ',' :: compactMembers ms

end

/-- A line break and the indentation of a level. -/
def lineBreak (level : Nat) : List Char :=
  '\n' :: List.replicate (2 * level) ' '

mutual

/-- The pretty layout, inside so many containers.  Empty containers stay closed. -/
def pretty (level : Nat) : Value → List Char
  | null => ['n', 'u', 'l', 'l']
  | string s => encodeString s
  | list [] => ['[', ']']
  | list (v :: vs) => '[' :: prettyItems (level + 1) (v :: vs) ++ lineBreak level ++ [']']
  | object [] => ['\x7b', '\x7d']
  | object (m :: ms) =>
    '\x7b' :: prettyMembers (level + 1) (m :: ms) ++ lineBreak level ++ ['\x7d']

/-- Items on lines of their own. -/
def prettyItems (level : Nat) : List Value → List Char
  | [] => []
  | [v] => lineBreak level ++ pretty level v
  | v :: vs => lineBreak level ++ pretty level v ++ ',' :: prettyItems level vs

/-- Members on lines of their own. -/
def prettyMembers (level : Nat) : List (String × Value) → List Char
  | [] => []
  | [(k, v)] => lineBreak level ++ encodeString k ++ ':' :: ' ' :: pretty level v
  | (k, v) :: ms =>
    lineBreak level ++ encodeString k ++ ':' :: ' ' :: pretty level v ++
      ',' :: prettyMembers level ms

end

/-- The compact text of a value. -/
def compactText (v : Value) : String := String.ofList v.compact

/-- The pretty text of a value. -/
def prettyText (v : Value) : String := String.ofList (v.pretty 0)

end Value

end ServiceStubs.Json
