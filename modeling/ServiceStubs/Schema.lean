import ServiceStubs.AuxiliaryText
import ServiceStubs.Service.Document
import ServiceStubs.Text.Blank
import ServiceStubs.Yaml.Record

/-!
# Service schemas

A schema lists the services to generate controllers for.  It is JSON, or YAML if its path says
so.  Every service and every operation in it must have a name that is not blank.
-/

namespace ServiceStubs

/-! ## Schemas in YAML -/

/-- How the fields of an operation are read. -/
def Operation.yamlFields : List (Yaml.Field Operation) :=
  [.of "Name" true Yaml.readString fun v o => { o with name := v },
   .of "Type" false (Yaml.readOrEmpty Yaml.readString) fun v o => { o with returnType := v },
   .of "ReturnValue" false (Yaml.readOrEmpty Yaml.readString)
     fun v o => { o with placeholder := v }]

/-- Reads an operation. -/
def Operation.ofYaml : Yaml.NodeReader Operation :=
  Yaml.readRecord Operation.yamlFields ⟨"", "", ""⟩

/-- How the fields of a service are read. -/
def Service.yamlFields : List (Yaml.Field Service) :=
  [.of "Name" true Yaml.readString fun v s => { s with name := v },
   .of "Namespace" false (Yaml.readOrEmpty Yaml.readString)
     fun v s => { s with sourceNamespace := v },
   .of "TargetNamespace" false (Yaml.readOrEmpty Yaml.readString)
     fun v s => { s with targetNamespace := v },
   .of "Operations" false (Yaml.readOrEmpty (Yaml.readList Operation.ofYaml))
     fun v s => { s with operations := v }]

/-- Reads a service. -/
def Service.ofYaml : Yaml.NodeReader Service :=
  Yaml.readRecord Service.yamlFields ⟨"", "", "", []⟩

namespace Schema

/-! ## Reading -/

/-- Whether a path names a YAML text. -/
def isYaml (path : String) : Bool :=
  let chars := path.toList
  ".yaml".toList.isSuffixOf chars || ".yml".toList.isSuffixOf chars

/-- Reads the services of a text, without looking at their names. -/
def read (path text : String) (wording : Wording := .plain) : Except Fault (List Service) :=
  if isYaml path then
    match Yaml.readListText Service.ofYaml text with
    | some services => .ok services
    | none => .error (.schemaMalformed path (wording.yaml text))
  else
    match Json.readDocument (Json.readList Service.shape.read) text with
    | .ok services => .ok services
    | .error e => .error (.schemaMalformed path e.message)

/-! ## Names -/

/-- What is wrong with the names of a service at an index, if anything: its own name counts
before those of its operations. -/
def blankName? (index : Nat) (s : Service) : Option String :=
  if Text.isBlankText s.name then
    some ("service at index " ++ toString index ++ " has an empty Name")
  else
    match s.operations.findIdx? (Text.isBlankText ·.name) with
    | some position =>
      some ("operation at index " ++ toString position ++ " of service '" ++ s.name
        ++ "' has an empty Name")
    | none => none

/-- What is wrong with the first service that has a blank name; the first index is given. -/
def firstBlankName? : Nat → List Service → Option String
  | _, [] => none
  | index, s :: rest =>
    match blankName? index s with
    | some reason => some reason
    | none => firstBlankName? (index + 1) rest

/-- Reads the services of a schema at a path. -/
def parse (path text : String) (wording : Wording := .plain) : Except Fault (List Service) := do
  let services ← read path text wording
  match firstBlankName? 0 services with
  | some reason => .error (.schemaMalformed path reason)
  | none => .ok services

/-- Finds the schema among auxiliary texts and reads it. -/
def load (texts : List AuxiliaryText) (fileName : String) (wording : Wording := .plain) :
    Except Fault (Option (List Service)) :=
  match AuxiliaryText.find? texts fileName with
  | none => .ok none
  | some found => (parse found.path found.text wording).map some

end Schema

end ServiceStubs
