import ServiceStubs.Fault
import ServiceStubs.Naming

/-!
# Services

A service is the record of a class's callable operations.  Its names become identifiers of
generated code, which the rules at the end of this module check.
-/

namespace ServiceStubs

/-- One operation that can be called from outside: its name, the name of the type it returns,
and the stub value that a generated entry point answers with. -/
structure Operation where
  name : String
  returnType : String
  placeholder : String
  deriving DecidableEq, Repr, Inhabited

/-- A service with its operations in declaration order, the namespace it was found in, and the
one it is generated for. -/
structure Service where
  name : String
  sourceNamespace : String
  targetNamespace : String
  operations : List Operation
  deriving DecidableEq, Repr, Inhabited

namespace Service

/-- The unit that holds the controller of the service. -/
def unitName (s : Service) : String :=
  s.name ++ "Controller" ++ Naming.generatedSuffix

/-- Checks that the service and its operations have names fit for generated code, and names the
first that does not. -/
def checkIdentifiers (s : Service) : Except Fault Unit :=
  if !Naming.isIdentifier s.name then .error (.invalidIdentifier s.name .service)
  else match s.operations.find? (!Naming.isIdentifier ·.name) with
    | some operation => .error (.invalidIdentifier (s.name ++ "." ++ operation.name) .operation)
    | none => .ok ()

/-- Checks that no two services share both name and source namespace, given those already
seen, and names the first that repeats one. -/
def checkUniqueFrom (seen : List (String × String)) : List Service → Except Fault Unit
  | [] => .ok ()
  | s :: rest =>
    if seen.contains (s.sourceNamespace, s.name) then
      .error (.duplicateService s.name s.sourceNamespace)
    else checkUniqueFrom ((s.sourceNamespace, s.name) :: seen) rest

/-- Checks that no two services share both name and source namespace. -/
def checkUnique (services : List Service) : Except Fault Unit :=
  checkUniqueFrom [] services

end Service

end ServiceStubs
