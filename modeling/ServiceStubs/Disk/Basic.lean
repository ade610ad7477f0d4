import ServiceStubs.Naming

/-!
# Disks

A disk is a tree of directories and files, kept as a table from locations to entries, with a
current directory.  Paths are followed step by step: each step before the last has to be in a
directory, and the directory above the top is the top itself.
-/

namespace ServiceStubs

/-- Why a disk refuses. -/
inductive DiskError where
  | notFound
  | alreadyExists
  | notDirectory
  | isDirectory
  deriving DecidableEq, Repr

/-- The wording of a refusal. -/
def DiskError.message : DiskError → String
  | notFound => "No such file or directory (os error 2)"
  | alreadyExists => "File exists (os error 17)"
  | notDirectory => "Not a directory (os error 20)"
  | isDirectory => "Is a directory (os error 21)"

namespace Disk

/-- The content of a file. -/
inductive Content where
  | text (s : String)
  /-- Octets that are no text. -/
  | binary
  deriving DecidableEq, Repr

/-- Octets as content: text, if they are UTF-8. -/
def Content.ofBytes (bytes : ByteArray) : Content :=
  match String.fromUTF8? bytes with
  | some s => .text s
  | none => .binary

/-- What a name in a directory stands for. -/
inductive Entry where
  | file (content : Content)
  | directory
  deriving DecidableEq, Repr

/-- A place in the tree, by the names on the way to it, the innermost first. -/
abbrev Location := List String

/-- A step of a path. -/
inductive Step where
  | here
  | above
  | named (name : String)
  deriving DecidableEq, Repr

/-- Where a step leads. -/
def Step.target (l : Location) : Step → Location
  | .here => l
  | .above => l.tail
  | .named name => name :: l

end Disk

open ServiceStubs.Disk (Location Entry)

/-- A tree of directories and files, with a current directory. -/
structure Disk where
  entries : List (Location × Entry)
  current : Location
  deriving DecidableEq, Repr

namespace Disk

/-- A disk with nothing but an empty current directory. -/
def empty : Disk := ⟨[(["work"], .directory)], ["work"]⟩

/-! ## Paths -/

/-- The step of a piece between slashes. -/
def step? (piece : List Char) : Option Step :=
  match piece with
  | [] => none
  | ['.'] => some .here
  | ['.', '.'] => some .above
  | name => some (.named (String.ofList name))

/-- The steps of a path. -/
def steps (path : String) : List Step :=
  (Naming.splitAtAny (· == '/') path.toList).filterMap step?

/-- Whether a path starts at the top of the tree. -/
def isAbsolute (path : String) : Bool := path.toList.head? == some '/'

/-- Whether a path ends in a slash. -/
def endsInSlash (path : String) : Bool := path.toList.getLast? == some '/'

/-- Where a path starts. -/
def start (d : Disk) (path : String) : Location := if isAbsolute path then [] else d.current

/-! ## Entries -/

/-- The entry at a location; at the top there is a directory. -/
def entry? (d : Disk) (l : Location) : Option Entry :=
  match l with
  | [] => some .directory
  | _ => d.entries.lookup l

/-- Puts an entry at a location. -/
def put (d : Disk) (l : Location) (e : Entry) : Disk :=
  { d with entries := (l, e) :: d.entries.filter (·.1 != l) }

/-- Takes the entry at a location away. -/
def erase (d : Disk) (l : Location) : Disk :=
  { d with entries := d.entries.filter (·.1 != l) }

/-- Requires a directory at a location. -/
def requireDirectory (d : Disk) (l : Location) : Except DiskError Unit :=
  match d.entry? l with
  | some .directory => .ok ()
  | some (.file _) => .error .notDirectory
  | none => .error .notFound

/-- Follows steps from a location.  What is found at the end may be anything, or missing. -/
def follow (d : Disk) : Location → List Step → Except DiskError Location
  | l, [] => .ok l
  | l, s :: ss => do
    d.requireDirectory l
    d.follow (s.target l) ss

/-- The location and the entry that a path leads to. -/
def find (d : Disk) (path : String) : Except DiskError (Location × Entry) :=
  if path.isEmpty then .error .notFound
  else do
    let l ← d.follow (d.start path) (steps path)
    match d.entry? l with
    | some (.file c) =>
      if endsInSlash path then .error .notDirectory else .ok (l, .file c)
    | some .directory => .ok (l, .directory)
    | none => .error .notFound

/-- Whether a path leads to a directory. -/
def isDirectory (d : Disk) (start : Location) (path : List Step) : Bool :=
  match d.follow start path with
  | .ok l => d.entry? l == some .directory
  | .error _ => false

/-! ## Reading -/

/-- The text of the file at a path, if it is one. -/
def readText? (d : Disk) (path : String) : Option String :=
  match d.find path with
  | .ok (_, .file (.text s)) => some s
  | _ => none

/-- The names in a directory, sorted, each with its entry. -/
def children (d : Disk) (l : Location) : List (String × Entry) :=
  let inside := d.entries.filterMap fun (m, e) =>
    match m with
    | name :: parent => if parent = l then some (name, e) else none
    | [] => none
  inside.mergeSort fun a b => decide (a.1 ≤ b.1)

/-- The files below a directory, depth first in the order of names, up to a given depth.  Each is
given by the names on the way to it, the outermost first. -/
def filesBelow (d : Disk) : Nat → Location → List (List String × Content)
  | 0, _ => []
  | n + 1, l =>
    (d.children l).flatMap fun (name, e) =>
      match e with
      | .file c => [([name], c)]
      | .directory => (d.filesBelow n (name :: l)).map fun (names, c) => (name :: names, c)

/-- All files below a directory. -/
def files (d : Disk) (l : Location) : List (List String × Content) :=
  d.filesBelow d.entries.length l

/-! ## Writing -/

/-- Makes a directory. -/
def makeDirectory (d : Disk) (start : Location) (path : List Step) : Except DiskError Disk := do
  match path.getLast? with
  | none => .error .alreadyExists
  | some last =>
    let parent ← d.follow start path.dropLast
    d.requireDirectory parent
    match last with
    | .named name =>
      if (d.entry? (name :: parent)).isSome then .error .alreadyExists
      else .ok (d.put (name :: parent) .directory)
    | _ => .error .alreadyExists

/-- The path without its last step.  Steps that stay in place count only at its start. -/
def parentSteps (path : List Step) : List Step :=
  match path with
  | [] => []
  | s :: ss => (s :: ss.filter (· != .here)).dropLast

/-- Makes a directory and those on the way to it, which are given so many; also what was made
before a refusal is kept. -/
def makeAllFuel (start : Location) :
    Nat → List Step → Disk → Except DiskError Unit × Disk
  | 0, _, d => (.error .notFound, d)
  | n + 1, path, d =>
    let settle (d : Disk) (e : DiskError) : Except DiskError Unit × Disk :=
      if d.isDirectory start path then (.ok (), d) else (.error e, d)
    match d.makeDirectory start path with
    | .ok d => (.ok (), d)
    | .error .notFound =>
      match makeAllFuel start n (parentSteps path) d with
      | (.ok (), d) =>
        match d.makeDirectory start path with
        | .ok d => (.ok (), d)
        | .error e => settle d e
      | refused => refused
    | .error e => settle d e

/-- Makes the directory at a path and those on the way to it.  An empty path is the current
directory. -/
def makeAll (d : Disk) (path : String) : Except DiskError Unit × Disk :=
  makeAllFuel (d.start path) ((steps path).length + 1) (steps path) d

/-- Where a file that a path names is created. -/
def fileLocation (d : Disk) (path : String) : Except DiskError Location :=
  if path.isEmpty then .error .notFound
  else do
    let ss := steps path
    match ss.getLast? with
    | none => .error .isDirectory
    | some last =>
      let parent ← d.follow (d.start path) ss.dropLast
      d.requireDirectory parent
      if endsInSlash path then .error .isDirectory
      else
        match last with
        | .named name =>
          if d.entry? (name :: parent) = some .directory then .error .isDirectory
          else .ok (name :: parent)
        | _ => .error .isDirectory

/-- Writes a file. -/
def writeFile (d : Disk) (path : String) (c : Content) : Except DiskError Disk := do
  let l ← d.fileLocation path
  return d.put l (.file c)

end Disk

end ServiceStubs
