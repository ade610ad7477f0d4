import ServiceStubs.Declarations.Basic
import ServiceStubs.Json.Record
import ServiceStubs.Json.Writer

/-!
# Declarations as JSON documents

Hosts hand declarations over as JSON.  Lists may be left out when they are empty; all other
fields are required.
-/

namespace ServiceStubs

open ServiceStubs.Json (Shape Value)

/-- The names of the visibilities in documents. -/
def Visibility.tags : List (String × Visibility) :=
  [("Public", .everywhere), ("Restricted", .restricted), ("Private", .hidden)]

/-- The name of a visibility in documents. -/
def Visibility.tag : Visibility → String
  | .everywhere => "Public"
  | .restricted => "Restricted"
  | .hidden => "Private"

/-- The names of the member kinds in documents. -/
def MemberKind.tags : List (String × MemberKind) :=
  [("Ordinary", .ordinary), ("Constructor", .constructor), ("Accessor", .accessor),
   ("Operator", .operator), ("TraitImpl", .traitImpl)]

/-- The name of a member kind in documents. -/
def MemberKind.tag : MemberKind → String
  | .ordinary => "Ordinary"
  | .constructor => "Constructor"
  | .accessor => "Accessor"
  | .operator => "Operator"
  | .traitImpl => "TraitImpl"

/-! ## Reading -/

/-- How a member is read. -/
def Member.shape : Shape Member where
  label := "struct MemberDeclaration"
  fields :=
    [.of "name" true Json.readString fun v m => { m with name := v },
     .of "kind" true (Json.readTag MemberKind.tags) fun v m => { m with kind := v },
     .of "visibility" true (Json.readTag Visibility.tags) fun v m => { m with visibility := v },
     .of "return_type" true Json.readString fun v m => { m with returnType := v }]
  blank := ⟨"", .ordinary, .hidden, ""⟩

/-- How a class is read. -/
def ClassDecl.shape : Shape ClassDecl where
  label := "struct ClassDeclaration"
  fields :=
    [.of "name" true Json.readString fun v c => { c with name := v },
     .of "namespace" true Json.readString fun v c => { c with scope := v },
     .of "visibility" true (Json.readTag Visibility.tags) fun v c => { c with visibility := v },
     .of "members" false (Json.readList Member.shape.read) fun v c => { c with members := v }]
  blank := ⟨"", "", .hidden, []⟩

/-- How the declarations of a file are read. -/
def SourceDecls.shape : Shape SourceDecls where
  label := "struct SourceDeclarations"
  fields :=
    [.of "path" true Json.readString fun v f => { f with path := v },
     .of "classes" false (Json.readList ClassDecl.shape.read) fun v f => { f with classes := v }]
  blank := ⟨"", []⟩

/-- How a snapshot is read. -/
def Snapshot.shape : Shape Snapshot where
  label := "struct DeclarationSnapshot"
  fields :=
    [.of "files" false (Json.readList SourceDecls.shape.read) fun v _ => ⟨v⟩]
  blank := ⟨[]⟩

/-- Reads a snapshot from its text. -/
def Snapshot.ofJsonText (text : String) : Except Json.Error Snapshot :=
  Json.readDocument Snapshot.shape.read text

/-! ## Writing -/

/-- The written form of a member. -/
def Member.toJson (m : Member) : Value :=
  .object
    [("name", .string m.name), ("kind", .string m.kind.tag),
     ("visibility", .string m.visibility.tag), ("return_type", .string m.returnType)]

/-- The written form of a class. -/
def ClassDecl.toJson (c : ClassDecl) : Value :=
  .object
    [("name", .string c.name), ("namespace", .string c.scope),
     ("visibility", .string c.visibility.tag), ("members", .list (c.members.map Member.toJson))]

/-- The written form of the declarations of a file. -/
def SourceDecls.toJson (f : SourceDecls) : Value :=
  .object [("path", .string f.path), ("classes", .list (f.classes.map ClassDecl.toJson))]

/-- The written form of a snapshot. -/
def Snapshot.toJson (s : Snapshot) : Value :=
  .object [("files", .list (s.files.map SourceDecls.toJson))]

end ServiceStubs
