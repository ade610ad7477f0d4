/-!
# Shortest decimal texts of doubles

A finite double is `m * 2 ^ q`.  Every real strictly nearer to it than to its neighbours reads
back as the same double, and so do the midpoints when `m` is even.  The text uses the fewest
digits that still name a point of that interval, and among those the nearest one.
-/

namespace ServiceStubs.Decimal

/-- A positive finite double `significand * 2 ^ exponent`.  `gapBelowHalved` marks the least
significand of a binade, whose neighbour below is only half a step away. -/
structure Binary where
  significand : Nat
  exponent : Int
  gapBelowHalved : Bool

/-- Digits `d` with value `0.d * 10 ^ point`. -/
structure Digits where
  digits : Nat
  count : Nat
  point : Int

/-- Splits the bits of a double, without its sign: eleven of exponent above fifty-two of
fraction.  `none` for zero, infinities and NaN. -/
def Binary.ofBits? (bits : Nat) : Option Binary :=
  let hidden := Nat.pow 2 52
  let fraction : Nat := bits % hidden
  let biased : Nat := bits / hidden % 2048
  if biased = 2047 then none
  else if biased = 0 then
    if fraction = 0 then none else some ⟨fraction, (-1074 : Int), false⟩
  else some ⟨hidden + fraction, (biased : Int) - 1075, fraction == 0 && decide (1 < biased)⟩

namespace Binary

/-- A quarter step, as a fraction: all interval ends are whole numbers of quarter steps. -/
def quarter (b : Binary) : Nat × Nat :=
  let e := b.exponent - 2
  (Nat.pow 2 e.toNat, Nat.pow 2 (-e).toNat)

/-- Multiplies a fraction by a power of ten. -/
def scale (f : Nat × Nat) (p : Int) : Nat × Nat :=
  (f.1 * Nat.pow 10 p.toNat, f.2 * Nat.pow 10 (-p).toNat)

/-- The least `p` at or above the given one with value below `10 ^ p`, within the fuel. -/
def pointFrom (num den : Nat) : Nat → Int → Int
  | 0, p => p
  | fuel + 1, p =>
    let (n, d) := scale (num, den) (-p)
    if n < d then p else pointFrom num den fuel (p + 1)

/-- The value lies in `[10 ^ (point - 1), 10 ^ point)`. -/
def point (b : Binary) : Int :=
  let (qn, qd) := b.quarter
  pointFrom (4 * b.significand * qn) qd 700 (-330)

/-- The nearest point of the decimal grid with `count` digits that reads back, if any. -/
def onGrid? (b : Binary) (point : Int) (count : Nat) : Option Nat :=
  let (qn, qd) := scale b.quarter ((count : Int) - point)
  let value := 4 * b.significand * qn
  let low := (4 * b.significand - (if b.gapBelowHalved then 1 else 2)) * qn
  let high := (4 * b.significand + 2) * qn
  let closed := b.significand % 2 == 0
  let reads (k : Nat) : Bool :=
    if closed then low ≤ k * qd && k * qd ≤ high else low < k * qd && k * qd < high
  let below := value / qd
  let above := below + 1
  let distanceBelow := value - below * qd
  let distanceAbove := above * qd - value
  match reads below, reads above with
  | true, true =>
    if distanceBelow < distanceAbove then some below
    else if distanceAbove < distanceBelow then some above
    else if below % 2 = 0 then some below else some above
  | true, false => some below
  | false, true => some above
  | false, false => none

/-- Tries one digit more while the fuel lasts; seventeen digits always suffice. -/
def search (b : Binary) (point : Int) : Nat → Nat → Digits
  | 0, count => ⟨(b.onGrid? point count).getD 0, count, point⟩
  | fuel + 1, count =>
    match b.onGrid? point count with
    | some k => if k = Nat.pow 10 count then ⟨1, 1, point + 1⟩ else ⟨k, count, point⟩
    | none => search b point fuel (count + 1)

/-- The fewest digits that read back as the double. -/
def shortest (b : Binary) : Digits :=
  b.search b.point 16 1

end Binary

/-- How a double is laid out: the range of scientific exponents written positionally. -/
structure Layout where
  positionalFrom : Int
  positionalBelow : Int

/-- Zeros. -/
def zeros (n : Nat) : List Char := List.replicate n '0'

/-- Lays out digits.  Positional texts always show a point; scientific ones always show the
sign of the exponent. -/
def Layout.render (l : Layout) (d : Digits) : List Char :=
  let ds := Nat.toDigits 10 d.digits
  let ds := zeros (d.count - ds.length) ++ ds
  let exponent := d.point - 1
  if l.positionalFrom ≤ exponent ∧ exponent < l.positionalBelow then
    if d.point ≤ 0 then ['0', '.'] ++ zeros (-d.point).toNat ++ ds
    else if (ds.length : Int) ≤ d.point then
      ds ++ zeros (d.point.toNat - ds.length) ++ ['.', '0']
    else ds.take d.point.toNat ++ ['.'] ++ ds.drop d.point.toNat
  else
    let mantissa := match ds with
      | [] => []
      | [c] => [c]
      | c :: rest => c :: '.' :: rest
    let sign := if exponent < 0 then '-' else '+'
    mantissa ++ ['e', sign] ++ Nat.toDigits 10 exponent.natAbs

/-- The text of a finite double under a layout. -/
def Layout.text (l : Layout) (x : Float) : String :=
  let bits := x.toBits.toNat
  let signBit := Nat.pow 2 63
  let body := match Binary.ofBits? (bits % signBit) with
    | none => ['0', '.', '0']
    | some b => l.render b.shortest
  String.ofList (if signBit ≤ bits then '-' :: body else body)

end ServiceStubs.Decimal
