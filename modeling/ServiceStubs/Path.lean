import ServiceStubs.Naming

/-!
# Paths

A path is read component by component: slashes separate, and repeated slashes and single dots
say nothing.  Paths that are written down are texts; a host may have others.
-/

namespace ServiceStubs.Path

/-- A component that says something: the directory above, or a name. -/
inductive Component where
  | above
  | named (name : String)
  deriving DecidableEq, Repr

/-- The component of a piece between slashes. -/
def component? (piece : List Char) : Option Component :=
  match piece with
  | [] => none
  | ['.'] => none
  | ['.', '.'] => some .above
  | name => some (.named (String.ofList name))

/-- The components of a path. -/
def components (path : String) : List Component :=
  (Naming.splitAtAny (· == '/') path.toList).filterMap component?

/-- The names among the components. -/
def names (path : String) : List String :=
  (components path).filterMap fun
    | .above => none
    | .named name => some name

/-- Puts a relative path behind a directory, with one slash between them. -/
def join (directory path : String) : String :=
  if path.toList.head? = some '/' then path
  else if directory.isEmpty || directory.toList.getLast? = some '/' then directory ++ path
  else directory ++ "/" ++ path

/-! ## Paths of a host -/

/-- A path as a host has it: octets, which need not be UTF-8. -/
abbrev Octets := List UInt8

namespace Octets

/-- The octets of a text. -/
def ofText (text : String) : Octets := text.toUTF8.data.toList

/-- The octet between components. -/
def slash : UInt8 := 47

/-- The octet of the components that say nothing or lead up. -/
def dot : UInt8 := 46

/-- The name that a piece between slashes is, if it is one and is text. -/
def name? (piece : Octets) : Option String :=
  if piece ∈ [[], [dot], [dot, dot]] then none else String.fromUTF8? piece.toByteArray

/-- The names among the components, as far as they are text. -/
def names (path : Octets) : List String :=
  (Naming.splitAtAny (· == slash) path).filterMap name?

/-- Puts a relative path behind a directory, with one slash between them. -/
def join (directory path : Octets) : Octets :=
  if path.head? = some slash then path
  else if directory.isEmpty || directory.getLast? = some slash then directory ++ path
  else directory ++ slash :: path

end Octets

end ServiceStubs.Path
