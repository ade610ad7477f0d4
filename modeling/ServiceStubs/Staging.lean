import ServiceStubs.Fault

/-!
# Staging units

Generated units are staged under names that must differ, and handed over together.  A pipeline
that fails drops what it staged.  The names are kept apart from the units, so that a look-up
never touches the texts.
-/

namespace ServiceStubs

/-- A source text to be handed to the host under a name. -/
structure GeneratedUnit where
  name : String
  text : String
  deriving DecidableEq, Repr, Inhabited

/-- The names taken so far, and the staged units in the order they came. -/
structure Staging where
  taken : List String
  units : List GeneratedUnit
  deriving DecidableEq, Repr

namespace Staging

/-- Nothing staged. -/
def empty : Staging := ⟨[], []⟩

/-- Stages a unit, unless its name is taken. -/
def add (s : Staging) (unit : GeneratedUnit) : Except Fault Staging :=
  if s.taken.contains unit.name then .error (.duplicateUnit unit.name)
  else .ok ⟨unit.name :: s.taken, s.units ++ [unit]⟩

/-- The number of staged units. -/
def size (s : Staging) : Nat := s.units.length

/-- Whether nothing is staged. -/
def isEmpty (s : Staging) : Bool := s.units.isEmpty

/-- The staged units in the order they came. -/
def commit (s : Staging) : List GeneratedUnit := s.units

/-- Stages units one after another and stops at the first name that is taken. -/
def addAll (s : Staging) : List GeneratedUnit → Except Fault Staging
  | [] => .ok s
  | unit :: rest => s.add unit >>= fun s => addAll s rest

end Staging

end ServiceStubs
