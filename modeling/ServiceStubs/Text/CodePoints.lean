/-!
# Sets of code points

A character property is a list of arithmetic runs of code points.  Most runs are solid
blocks; alternating alphabets, where capital and small letters take turns, are runs of
stride two.
-/

namespace ServiceStubs.Text

/-- The code points `first`, `first + stride`, and so on, up to `last`. -/
structure Run where
  first : Nat
  last : Nat
  stride : Nat
  deriving DecidableEq, Repr

namespace Run

/-- Whether a code point lies on the run. -/
def contains (r : Run) (n : Nat) : Bool :=
  r.first ≤ n && n ≤ r.last && (n - r.first) % r.stride == 0

end Run

/-- Whether a code point lies on one of the runs. -/
def inRuns (runs : List Run) (n : Nat) : Bool :=
  runs.any (·.contains n)

end ServiceStubs.Text
