import ServiceStubs.Declarations.ModulePath
import ServiceStubs.Fault
import ServiceStubs.Rust.File

/-!
# Declarations of Rust sources

Structures and enumerations are the classes, and the functions of implementation blocks are
their members.  A block belongs to the first class of its name in its own module, wherever that
class is declared; blocks for other types are dropped.
-/

namespace ServiceStubs

/-- A source file, with the module path that its host gives it. -/
structure SourceText where
  path : String
  scope : String
  text : String
  deriving DecidableEq, Repr

namespace Rust

/-! ## Types -/

/-- The last name of a path. -/
def Ty.lastName? : Ty → Option String
  | path _ name => some name
  | applied _ name _ => some name
  | paren inner => inner.lastName?
  | _ => none

/-- How a type is named in declarations: a path by its last name, anything else by its tokens. -/
def Ty.label : Ty → String
  | path _ name => name
  | applied _ name _ => name
  | reference target => target.label
  | paren inner => inner.label
  | unit => "()"
  | other tokens => Tree.textOf tokens

/-- Wrappers whose first argument is what a constructor makes. -/
def wrappers : List String := ["Result", "Option", "Box", "Arc", "Rc"]

/-- Whether a type is the named one, or that type in wrappers. -/
def Ty.makes (typeName : String) : Ty → Bool
  | path false name => name == "Self" || name == typeName
  | applied false name argument =>
    name == "Self" || name == typeName || wrappers.contains name && argument.makes typeName
  | paren inner => inner.makes typeName
  | _ => false

/-! ## Members -/

/-- Traits whose functions overload operators. -/
def operatorTraits : List String :=
  ["Add", "Sub", "Mul", "Div", "Rem", "Neg", "Not", "BitAnd", "BitOr", "BitXor", "Shl", "Shr",
   "AddAssign", "SubAssign", "MulAssign", "DivAssign", "RemAssign", "BitAndAssign",
   "BitOrAssign", "BitXorAssign", "ShlAssign", "ShrAssign", "Index", "IndexMut", "Deref",
   "DerefMut", "PartialEq", "PartialOrd"]

/-- The kind of a function that implements no trait. -/
def Method.kind (typeName : String) (m : Method) : MemberKind :=
  match m.output with
  | some t => if !m.hasReceiver && t.makes typeName then .constructor else .ordinary
  | none => .ordinary

/-- The name of what a function returns. -/
def Method.returnType (m : Method) : String :=
  match m.output with
  | some t => t.label
  | none => "()"

/-- A function as a member of a class.  The functions of a trait are as visible as the trait. -/
def Method.toMember (typeName : String) (trait? : Option String) (m : Method) : Member :=
  match trait? with
  | some name =>
    { name := m.name
      kind := if operatorTraits.contains name then .operator else .traitImpl
      visibility := .everywhere
      returnType := m.returnType }
  | none =>
    { name := m.name
      kind := m.kind typeName
      visibility := m.visibility
      returnType := m.returnType }

/-! ## What items contribute -/

/-- What the items of a file contribute. -/
inductive Finding where
  /-- A class. -/
  | declared (name scope : String) (visibility : Visibility)
  /-- Members for the class of that name in that module. -/
  | members (name scope : String) (members : List Member)

/-- What an implementation block contributes. -/
def ImplBlock.findings (scope : String) (b : ImplBlock) : List Finding :=
  match b.selfType.lastName? with
  | some name => [.members name scope (b.methods.map (Method.toMember name b.trait?))]
  | none => []

mutual

/-- What an item contributes at a module path. -/
def Item.findings (scope : String) : Item → List Finding
  | .declared name visibility => [.declared name scope visibility]
  | .implBlock block => block.findings scope
  | .inlineModule name items => Item.allFindings (ModulePath.extend scope name) items
  | .other => []

/-- What items contribute, in order. -/
def Item.allFindings (scope : String) : List Item → List Finding
  | [] => []
  | i :: is => i.findings scope ++ Item.allFindings scope is

end

/-- The class that a finding declares, still without members. -/
def Finding.class? : Finding → Option ClassDecl
  | declared name scope visibility => some ⟨name, scope, visibility, []⟩
  | members .. => none

/-- The members that a finding holds for the class of a name in a module. -/
def Finding.membersOf (name scope : String) : Finding → List Member
  | declared .. => []
  | members n s ms => if n = name ∧ s = scope then ms else []

/-! ## Joining classes and members -/

/-- Gives each class its members, unless an earlier one has its name and module.  Those of
earlier classes are given. -/
def placeMembers (findings : List Finding) :
    List (String × String) → List ClassDecl → List ClassDecl
  | _, [] => []
  | earlier, c :: cs =>
    let key := (c.name, c.scope)
    let members := if key ∈ earlier then [] else findings.flatMap (·.membersOf c.name c.scope)
    { c with members } :: placeMembers findings (key :: earlier) cs

/-- Gives the classes of all files their members. -/
def placeAllMembers (findings : List Finding) :
    List (String × String) → List SourceDecls → List SourceDecls
  | _, [] => []
  | earlier, f :: fs =>
    let keys := f.classes.map fun c => (c.name, c.scope)
    { f with classes := placeMembers findings earlier f.classes } ::
      placeAllMembers findings (keys ++ earlier) fs

/-- The declarations of files whose findings are known. -/
def snapshotOf (files : List (String × List Finding)) : Snapshot :=
  let bare := files.map fun (path, findings) =>
    (⟨path, findings.filterMap Finding.class?⟩ : SourceDecls)
  ⟨placeAllMembers (files.flatMap Prod.snd) [] bare⟩

/-- What a file contributes, with its path. -/
def findingsOf (file : SourceText) (wording : Wording := .plain) :
    Except Fault (String × List Finding) :=
  match items? file.text with
  | some items => .ok (file.path, Item.allFindings file.scope items)
  | none => .error (.sourceUnparseable file.path (wording.source file.text))

end Rust

/-- The declarations of source files; the first file that cannot be read is at fault. -/
def Snapshot.ofRust (files : List SourceText) (wording : Wording := .plain) :
    Except Fault Snapshot :=
  (files.mapM (Rust.findingsOf · wording)).map Rust.snapshotOf

end ServiceStubs
