import ServiceStubs.Path

/-!
# Module paths of files

A source file lies in a module that its place below a source root decides.  The directories on
the way are modules, and so is the file itself, unless its name says that it stands for its
directory.
-/

namespace ServiceStubs.ModulePath

/-- Extends a module path by a segment. -/
def extend (base segment : String) : String :=
  if base.isEmpty then segment else base ++ "::" ++ segment

/-- The name of a source file without its extension. -/
def stem (fileName : String) : String :=
  let chars := fileName.toList
  if ['.', 'r', 's'].isSuffixOf chars then String.ofList (chars.take (chars.length - 3))
  else fileName

/-- Stems of files that stand for their directory. -/
def directoryStems : List String := ["lib", "main", "mod"]

/-- The segments that a file at the end of such names adds. -/
def segments : List String → List String
  | [] => []
  | [file] => if directoryStems.contains (stem file) then [] else [stem file]
  | directory :: rest => directory :: segments rest

/-- The module path of a file at a path relative to its source root.  What is no text on the way is
left out, also where it is the file. -/
def ofPath (base : String) (relative : Path.Octets) : String :=
  (segments relative.names).foldl extend base

/-- The module path of a file whose path is text. -/
def ofFile (base relative : String) : String := ofPath base (.ofText relative)

end ServiceStubs.ModulePath
