import ServiceStubs.Json.Record
import ServiceStubs.Json.Writer
import ServiceStubs.Service.Basic

/-!
# Services as JSON documents

The written form lists every field in a fixed order.  Reading is more tolerant: all fields but
the names may be left out or null.
-/

namespace ServiceStubs

open ServiceStubs.Json (Field Shape Value)

/-- How an operation is read. -/
def Operation.shape : Shape Operation where
  label := "struct Operation"
  fields :=
    [.of "Name" true Json.readString fun v o => { o with name := v },
     .of "Type" false (Json.readOrEmpty Json.readString) fun v o => { o with returnType := v },
     .of "ReturnValue" false (Json.readOrEmpty Json.readString)
       fun v o => { o with placeholder := v }]
  blank := ⟨"", "", ""⟩

/-- How a service is read. -/
def Service.shape : Shape Service where
  label := "struct ServiceDescription"
  fields :=
    [.of "Name" true Json.readString fun v s => { s with name := v },
     .of "Namespace" false (Json.readOrEmpty Json.readString)
       fun v s => { s with sourceNamespace := v },
     .of "TargetNamespace" false (Json.readOrEmpty Json.readString)
       fun v s => { s with targetNamespace := v },
     .of "Operations" false (Json.readOrEmpty (Json.readList Operation.shape.read))
       fun v s => { s with operations := v }]
  blank := ⟨"", "", "", []⟩

/-- The written form of an operation. -/
def Operation.toJson (o : Operation) : Value :=
  .object
    [("Name", .string o.name), ("Type", .string o.returnType),
     ("ReturnValue", .string o.placeholder)]

/-- The written form of a service. -/
def Service.toJson (s : Service) : Value :=
  .object
    [("Name", .string s.name), ("Namespace", .string s.sourceNamespace),
     ("TargetNamespace", .string s.targetNamespace),
     ("Operations", .list (s.operations.map Operation.toJson))]

/-- The text of a service model. -/
def Service.modelText (services : List Service) : String :=
  (Value.list (services.map Service.toJson)).prettyText

end ServiceStubs
