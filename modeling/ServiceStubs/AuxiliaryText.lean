/-!
# Auxiliary texts

Besides the program itself a run is given texts with paths.  They are found by the end of their
path, so that different root directories do not matter.
-/

namespace ServiceStubs

/-- A text and the path it was found at. -/
structure AuxiliaryText where
  path : String
  text : String
  deriving DecidableEq, Repr, Inhabited

namespace AuxiliaryText

/-- Whether the path ends so. -/
def hasSuffix (t : AuxiliaryText) (suffix : String) : Bool :=
  suffix.toList.isSuffixOf t.path.toList

/-- The first text whose path ends so. -/
def find? (texts : List AuxiliaryText) (suffix : String) : Option AuxiliaryText :=
  List.find? (·.hasSuffix suffix) texts

end AuxiliaryText

end ServiceStubs
