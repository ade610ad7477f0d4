import ServiceStubs.Diagnostic

/-!
# Faults

Everything that ends a pipeline early.  A fault is a cause; its id and its wording are fixed
here, once for all pipelines.
-/

namespace ServiceStubs

/-- What an ill-formed name was meant to name. -/
inductive Role where
  | service
  | operation
  deriving DecidableEq, Repr

/-- The role as messages write it. -/
def Role.label : Role → String
  | .service => "service"
  | .operation => "operation"

/-- Why a pipeline stops. -/
inductive Fault where
  | configMalformed (path reason : String)
  | schemaMalformed (path reason : String)
  | duplicateService (name scope : String)
  | duplicateUnit (name : String)
  | invalidIdentifier (name : String) (role : Role)
  | sourceUnparseable (path reason : String)
  | template (reason : String)
  | serialization (reason : String)
  | io (reason : String)
  deriving DecidableEq, Repr

namespace Fault

/-- The id that hosts filter on. -/
def id : Fault → String
  | configMalformed _ _ => "SG0001"
  | schemaMalformed _ _ => "SG0002"
  | duplicateService _ _ => "SG0003"
  | duplicateUnit _ => "SG0004"
  | invalidIdentifier _ _ => "SG0005"
  | sourceUnparseable _ _ => "SG0006"
  | template _ => "SG0007"
  | serialization _ => "SG0008"
  | io _ => "SG0009"

/-- The wording. -/
def message : Fault → String
  | configMalformed _ reason => "Malformed analyzer config: " ++ reason
  | schemaMalformed _ reason => "Malformed service schema: " ++ reason
  | duplicateService name scope =>
    "Duplicate service name '" ++ name ++ "' in namespace '" ++ scope ++ "'"
  | duplicateUnit name => "Duplicate generated unit name: " ++ name
  | invalidIdentifier name role => "'" ++ name ++ "' is not a valid " ++ role.label ++ " identifier"
  | sourceUnparseable _ reason => "Failed to parse source: " ++ reason
  | template reason => "Template error: " ++ reason
  | serialization reason => "Serialization error: " ++ reason
  | io reason => "IO error: " ++ reason

/-- The input at fault, for the faults that have one. -/
def location? : Fault → Option String
  | configMalformed path _ => some path
  | schemaMalformed path _ => some path
  | sourceUnparseable path _ => some path
  | _ => none

/-- The fault as a diagnostic, always an error. -/
def toDiagnostic (f : Fault) : Diagnostic :=
  ⟨f.id, .error, f.message, f.location?⟩

end Fault

/-! ## Reasons of readers -/

/-- The reasons that the readers of YAML and of source text give for a text that they refuse.  Their
wording is up to them. -/
structure Wording where
  yaml : String → String
  source : String → String

/-- The same short reason for every text. -/
def Wording.plain : Wording where
  yaml _ := "no list of services in YAML"
  source _ := "no well-formed source text"

end ServiceStubs
