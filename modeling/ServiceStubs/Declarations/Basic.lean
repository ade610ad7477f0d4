/-!
# Declarations

What a run may know about a program: its source files in a stable order, the classes declared
in each, and their members.
-/

namespace ServiceStubs

/-- Declared accessibility.  Restricted means visible in some enclosing scope only. -/
inductive Visibility where
  | everywhere
  | restricted
  | hidden
  deriving DecidableEq, Repr, Inhabited

/-- What kind of callable a member is. -/
inductive MemberKind where
  | ordinary
  | constructor
  | accessor
  | operator
  | traitImpl
  deriving DecidableEq, Repr, Inhabited

/-- A callable member of a class. -/
structure Member where
  name : String
  kind : MemberKind
  visibility : Visibility
  returnType : String
  deriving DecidableEq, Repr, Inhabited

/-- A class: a declared type, the namespace it is declared in, and its members in declaration
order. -/
structure ClassDecl where
  name : String
  scope : String
  visibility : Visibility
  members : List Member
  deriving DecidableEq, Repr, Inhabited

/-- The classes of one source file, in declaration order. -/
structure SourceDecls where
  path : String
  classes : List ClassDecl
  deriving DecidableEq, Repr, Inhabited

/-- The files of a program, in traversal order. -/
structure Snapshot where
  files : List SourceDecls
  deriving DecidableEq, Repr, Inhabited

/-- All classes, file by file. -/
def Snapshot.classes (s : Snapshot) : List ClassDecl :=
  s.files.flatMap SourceDecls.classes

end ServiceStubs
