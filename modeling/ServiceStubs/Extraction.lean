import ServiceStubs.Declarations.Basic
import ServiceStubs.Notice
import ServiceStubs.Service.Basic

/-!
# Extracting services from declarations

Every public class of the services namespace becomes a service, and its public ordinary members
become the operations.  Orders are kept, so equal snapshots give equal services.
-/

namespace ServiceStubs.Extraction

/-- The stub value of an operation. -/
def placeholder (operation service : String) : String :=
  "This is " ++ operation ++ " from " ++ service

/-- Whether a member can be called as an operation. -/
def isOperation (m : Member) : Bool :=
  m.kind == .ordinary && m.visibility == .everywhere

/-- The service of a class. -/
def serviceOf (target : Option String) (c : ClassDecl) : Service where
  name := c.name
  sourceNamespace := c.scope
  targetNamespace := target.getD ""
  operations := (c.members.filter isOperation).map fun m =>
    ⟨m.name, m.returnType, placeholder m.name c.name⟩

/-- Whether a class is a candidate: public, and in exactly the services namespace. -/
def isCandidate (services : String) (c : ClassDecl) : Bool :=
  c.scope == services && c.visibility == .everywhere

/-- The services of a list of classes.  A candidate without a name is noticed and skipped. -/
def ofClasses (services : String) (target : Option String) :
    List ClassDecl → Noted (List Service)
  | [] => pure []
  | c :: rest =>
    if isCandidate services c then
      if c.name.isEmpty then do
        Noted.tell (.unnamedClass c.scope)
        ofClasses services target rest
      else do
        let more ← ofClasses services target rest
        return serviceOf target c :: more
    else ofClasses services target rest

/-- The services of a program. -/
def extract (services : String) (target : Option String) (snapshot : Snapshot) :
    Noted (List Service) :=
  ofClasses services target snapshot.classes

end ServiceStubs.Extraction
