import ServiceStubs.Text.CodePoints
import ServiceStubs.Text.Quoted.Table

/-!
# Quoted text

A text between double quotes in which every character that could end the quotation, start a
new line or stay invisible is spelled by an escape.
-/

namespace ServiceStubs.Text.Quoted

/-- Whether a quoted text spells the character by its number. -/
def isHidden (c : Char) : Bool :=
  if c.toNat < 128 then c.toNat < 0x20 || c.toNat == 0x7F else inRuns hiddenRuns c.toNat

/-- The spelling of one character inside the quotes.  An apostrophe needs no escape there. -/
def encodeChar (c : Char) : List Char :=
  if c = '\x00' then ['\\', '0']
  else if c = '\t' then ['\\', 't']
  else if c = '\r' then ['\\', 'r']
  else if c = '\n' then ['\\', 'n']
  else if c = '\\' then ['\\', '\\']
  else if c = '"' then ['\\', '"']
  else if isHidden c then ['\\', 'u', '\x7b'] ++ Nat.toDigits 16 c.toNat ++ ['\x7d']
  else [c]

/-- The text with its quotes. -/
def encode (s : List Char) : List Char :=
  '"' :: s.flatMap encodeChar ++ ['"']

end ServiceStubs.Text.Quoted

namespace ServiceStubs.Text

/-- The quoted form of a text, ready to stand as a string literal. -/
def quoted (s : String) : String :=
  String.ofList (Quoted.encode s.toList)

end ServiceStubs.Text
