import ServiceStubs.Decimal.Shortest
import ServiceStubs.Json.Reader

/-!
# Numbers where something else is wanted

No field of a document is numeric, so a number is read only to be named in a message.  Whole
numbers that fit a word keep their value.  All others become doubles: the digits that fit a
word, multiplied or divided by a power of ten.
-/

namespace ServiceStubs.Json.Number

/-- Doubles in messages are positional from 1e-5 up to 1e16. -/
def layout : Decimal.Layout := ⟨-5, 16⟩

/-- The first number beyond the unsigned words. -/
def wordLimit : Nat := Nat.pow 2 64

/-- The first exponent that is no longer accumulated digit by digit. -/
def exponentLimit : Nat := Nat.pow 2 31

/-- A digit's value. -/
def digitValue (c : Char) : Nat := c.toNat - '0'.toNat

/-- A power of ten as a double. -/
def power (n : Nat) : Float := Float.ofScientific 1 false n

/-- Brings `f * 10 ^ exponent` into range by steps of 308, the largest power there is. -/
def scaled : Nat → Float → Int → Option Float
  | 0, f, _ => some f
  | fuel + 1, f, exponent =>
    if exponent.natAbs ≤ 308 then
      if 0 ≤ exponent then
        let g := f * power exponent.natAbs
        if g.isInf then none else some g
      else some (f / power exponent.natAbs)
    else if f == 0.0 then some f
    else if 0 ≤ exponent then none
    else scaled fuel (f / power 308) (exponent + 308)

/-- The double of a sign, a word and a power of ten. -/
def finish (positive : Bool) (word : Nat) (exponent : Int) (rest : List Char) :
    Except Failure (Found × List Char) :=
  match scaled (exponent.natAbs / 308 + 2) (Float.ofNat word) exponent with
  | none => failAt .numberOutOfRange rest
  | some f => .ok (.decimal (layout.text (if positive then f else -f)), rest)

/-- Folds digits into a bounded number; `none` when the bound is reached, with the rest from the
digit that did not fit. -/
def accumulate (limit : Nat) : Nat → List Char → Bool × Nat × Nat × List Char
  | value, [] => (true, value, 0, [])
  | value, c :: rest =>
    if c.isDigit then
      if limit ≤ value * 10 + digitValue c then (false, value, 0, c :: rest)
      else
        let (whole, v, n, r) := accumulate limit (value * 10 + digitValue c) rest
        (whole, v, n + 1, r)
    else (true, value, 0, c :: rest)

/-- Reads the exponent after its letter. -/
def readExponent (positive : Bool) (word : Nat) (start : Int) (s : List Char) :
    Except Failure (Found × List Char) :=
  let (up, s) := match s with
    | '+' :: r => (true, r)
    | '-' :: r => (false, r)
    | r => (true, r)
  match s with
  | [] => failAt .endInValue []
  | c :: rest =>
    if c.isDigit then
      let (whole, e, _, r) := accumulate exponentLimit (digitValue c) rest
      if whole then finish positive word (if up then start + e else start - e) r
      else if word ≠ 0 && up then failAt .numberOutOfRange (r.drop 1)
      else
        let r := r.dropWhile Char.isDigit
        .ok (.decimal (if positive then "0.0" else "-0.0"), r)
    else failAfter .invalidNumber s

/-- Goes on with an exponent if there is one. -/
def readTail (positive : Bool) (word : Nat) (exponent : Int) (s : List Char) :
    Except Failure (Found × List Char) :=
  match s with
  | 'e' :: r => readExponent positive word exponent r
  | 'E' :: r => readExponent positive word exponent r
  | r => finish positive word exponent r

/-- Reads the digits after the point.  Digits that no longer fit the word are ignored. -/
def readFraction (positive : Bool) (word : Nat) (exponent : Int) (s : List Char) :
    Except Failure (Found × List Char) :=
  let (whole, w, n, r) := accumulate wordLimit word s
  if whole then
    if n = 0 then
      if r.isEmpty then failAfter .endInValue r else failAfter .invalidNumber r
    else readTail positive w (exponent - n) r
  else readTail positive w (exponent - n) (r.dropWhile Char.isDigit)

/-- Reads a number after its sign. -/
def read (positive : Bool) (s : List Char) : Except Failure (Found × List Char) :=
  match s with
  | [] => failAt .endInValue []
  | c :: rest =>
    if !c.isDigit then failAfter .invalidNumber s
    else if c = '0' && (rest.head?.map Char.isDigit).getD false then
      failAfter .invalidNumber rest
    else
      let (whole, w, _, r) :=
        if c = '0' then (true, 0, 0, rest) else accumulate wordLimit (digitValue c) rest
      if whole then
        match r with
        | '.' :: r => readFraction positive w 0 r
        | 'e' :: r => readExponent positive w 0 r
        | 'E' :: r => readExponent positive w 0 r
        | r =>
          if positive then .ok (.integer w, r)
          else if w = 0 ∨ Nat.pow 2 63 < w then finish false w 0 r
          else .ok (.integer (-(w : Int)), r)
      else
        let more := (r.takeWhile Char.isDigit).length
        match r.dropWhile Char.isDigit with
        | '.' :: r => readFraction positive w more r
        | r => readTail positive w more r

end ServiceStubs.Json.Number
