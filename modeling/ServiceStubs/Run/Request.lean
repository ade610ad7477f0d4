import ServiceStubs.AuxiliaryText
import ServiceStubs.Declarations.Document

/-!
# Requests

All that a run may read, as its host has gathered it: the name of the program's module, its
declarations, and the auxiliary texts.  A request can be written as JSON and read back.
-/

namespace ServiceStubs

open ServiceStubs.Json (Shape Value)

/-- All that a run may read. -/
structure Request where
  moduleName : String
  declarations : Snapshot
  texts : List AuxiliaryText
  deriving DecidableEq, Repr, Inhabited

/-- How an auxiliary text is read. -/
def AuxiliaryText.shape : Shape AuxiliaryText where
  label := "struct AdditionalText"
  fields :=
    [.of "path" true Json.readString fun v t => { t with path := v },
     .of "text" true Json.readString fun v t => { t with text := v }]
  blank := ⟨"", ""⟩

/-- The written form of an auxiliary text. -/
def AuxiliaryText.toJson (t : AuxiliaryText) : Value :=
  .object [("path", .string t.path), ("text", .string t.text)]

namespace Request

/-- How a request is read. -/
def shape : Shape Request where
  label := "struct GeneratorInput"
  fields :=
    [.of "module_name" true Json.readString fun v r => { r with moduleName := v },
     .of "declarations" true Snapshot.shape.read fun v r => { r with declarations := v },
     .of "additional_texts" true (Json.readList AuxiliaryText.shape.read)
       fun v r => { r with texts := v }]
  blank := ⟨"", ⟨[]⟩, []⟩

/-- Reads a request from its text. -/
def ofJsonText (text : String) : Except Json.Error Request :=
  Json.readDocument shape.read text

/-- The written form of a request. -/
def toJson (r : Request) : Value :=
  .object
    [("module_name", .string r.moduleName), ("declarations", r.declarations.toJson),
     ("additional_texts", .list (r.texts.map AuxiliaryText.toJson))]

end Request

end ServiceStubs
