import ServiceStubs.AuxiliaryText
import ServiceStubs.Fault
import ServiceStubs.Json.Record
import ServiceStubs.Json.Writer
import ServiceStubs.Notice
import ServiceStubs.Text.Blank

/-!
# Run configuration

A run is configured by the auxiliary text whose path ends with `analyzer.config.json`.  Each of
its three settings is optional, and a blank value counts as unset.
-/

namespace ServiceStubs

/-- The settings as they were written. -/
structure Config where
  schema : Option String
  services : Option String
  target : Option String
  deriving DecidableEq, Repr, Inhabited

namespace Config

/-- How every path of a configuration ends. -/
def fileName : String := "analyzer.config.json"

/-- How a configuration is read. -/
def shape : Json.Shape Config where
  label := "struct RunConfig"
  fields :=
    [.of "JsonSchema" false (Json.readOptional Json.readString)
       fun v c => { c with schema := v },
     .of "ControllerServicesNamespace" false (Json.readOptional Json.readString)
       fun v c => { c with services := v },
     .of "TargetProject" false (Json.readOptional Json.readString)
       fun v c => { c with target := v }]
  blank := ⟨none, none, none⟩

/-- Reads a configuration from the text at a path. -/
def read (path text : String) : Except Fault Config :=
  match Json.readDocument shape.read text with
  | .ok config => .ok config
  | .error e => .error (.configMalformed path e.message)

/-- A setting that is not blank. -/
def nonBlank (value : Option String) : Option String :=
  value.filter (!Text.isBlankText ·)

/-- The end of the path of the service schema. -/
def schemaFileName (c : Config) : Option String := nonBlank c.schema

/-- The namespace whose classes are services. -/
def servicesNamespace (c : Config) : Option String := nonBlank c.services

/-- The namespace that controllers are generated for. -/
def targetNamespace (c : Config) : Option String := nonBlank c.target

/-- An optional setting as a document. -/
def settingToJson : Option String → Json.Value
  | some s => .string s
  | none => .null

/-- The configuration as a document. -/
def toJson (c : Config) : Json.Value :=
  .object
    [("JsonSchema", settingToJson c.schema),
     ("ControllerServicesNamespace", settingToJson c.services),
     ("TargetProject", settingToJson c.target)]

/-- Finds and reads the configuration of a run, if there is one. -/
def resolve (texts : List AuxiliaryText) : Noted (Except Fault (Option Config)) := do
  match AuxiliaryText.find? texts fileName with
  | none => return .ok none
  | some found =>
    let count := (texts.filter (·.hasSuffix fileName)).length
    if 1 < count then Noted.tell (.severalConfigs found.path count)
    return (read found.path found.text).map some

end Config

end ServiceStubs
