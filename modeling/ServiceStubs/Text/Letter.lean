import ServiceStubs.Text.CodePoints
import ServiceStubs.Text.Letter.Table

/-!
# Letters

The letter properties that naming rules look at, for every character.  ASCII is decided
directly; the tables settle the rest.
-/

namespace ServiceStubs.Text.Letter

/-- The property Uppercase.  Title-case letters do not have it; capital numerals do. -/
def isUppercase (c : Char) : Bool :=
  if c.toNat < 128 then c.isUpper else inRuns upperRuns c.toNat

/-- The property Lowercase, which modifier letters such as U+02B0 have too. -/
def isLowercase (c : Char) : Bool :=
  if c.toNat < 128 then c.isLower else inRuns lowerRuns c.toNat

/-- Alphabetic, or a number of any of the three number categories. -/
def isAlphanumeric (c : Char) : Bool :=
  if c.toNat < 128 then c.isAlphanum else inRuns alphanumericRuns c.toNat

/-- The lower-case form of one character, taken alone.  Only U+0130 has two characters in its
form: a small i and the combining dot above. -/
def lowercase (c : Char) : List Char :=
  if c.toNat < 128 then [c.toLower]
  else if c.toNat = 0x130 then ['i', '\u0307']
  else match shifts.find? (·.contains c.toNat) with
    | some s => [Char.ofNat (c.toNat - s.first + s.partner)]
    | none => [c]

end ServiceStubs.Text.Letter
