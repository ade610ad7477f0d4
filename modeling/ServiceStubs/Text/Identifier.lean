import ServiceStubs.Text.CodePoints
import ServiceStubs.Text.Identifier.Table

/-!
# Identifier characters

Which characters start and continue an identifier of a source text.  ASCII is decided directly;
the tables settle the rest.
-/

namespace ServiceStubs.Text.Identifier

/-- XID_Start, or the underscore. -/
def isStart (c : Char) : Bool :=
  if c.toNat < 128 then c.isAlpha || c == '_' else inRuns startRuns c.toNat

/-- XID_Continue, to which the underscore belongs. -/
def isPart (c : Char) : Bool :=
  if c.toNat < 128 then c.isAlphanum || c == '_'
  else inRuns startRuns c.toNat || inRuns partRuns c.toNat

end ServiceStubs.Text.Identifier
