import ServiceStubs.Json.Writer

/-!
# Diagnostics

A diagnostic is one reportable condition: a stable id, a severity, a message, and the path of
the input it points at, when there is one.
-/

namespace ServiceStubs

/-- How bad a reported condition is. -/
inductive Severity where
  | warning
  | error
  deriving DecidableEq, Repr

/-- The severity as hosts write it. -/
def Severity.label : Severity → String
  | .warning => "warning"
  | .error => "error"

/-- A reportable condition. -/
structure Diagnostic where
  id : String
  severity : Severity
  message : String
  location : Option String
  deriving DecidableEq, Repr

namespace Diagnostic

/-- A diagnostic that points nowhere. -/
def bare (severity : Severity) (id message : String) : Diagnostic :=
  ⟨id, severity, message, none⟩

/-- Points the diagnostic at an input. -/
def located (d : Diagnostic) (location : String) : Diagnostic :=
  { d with location := some location }

/-- Whether the condition is an error. -/
def isError (d : Diagnostic) : Bool :=
  d.severity = .error

/-- One line for a reader: severity, id, message, and the location in parentheses. -/
def render (d : Diagnostic) : String :=
  let line := d.severity.label ++ "[" ++ d.id ++ "]: " ++ d.message
  match d.location with
  | some location => line ++ " (" ++ location ++ ")"
  | none => line

/-- The diagnostic as a document. -/
def toJson (d : Diagnostic) : Json.Value :=
  .object
    [("id", .string d.id), ("severity", .string d.severity.label),
     ("message", .string d.message),
     ("location", match d.location with | some l => .string l | none => .null)]

end Diagnostic

end ServiceStubs
