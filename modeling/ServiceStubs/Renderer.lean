import ServiceStubs.Service.Controller
import ServiceStubs.Service.ModelUnit
import ServiceStubs.Template.Syntax

/-!
# Renderers

A renderer turns a service into the text of its controller, and a module's model into the text
of the aggregate unit.  The built-in renderer never fails for want of a template; others are
made from template texts, or given as functions.
-/

namespace ServiceStubs

/-- How the units of a run get their texts. -/
structure Renderer where
  controller : Service → Except Fault String
  serviceModel : String → String → Except Fault String

namespace Renderer

/-- Renders parts under the name by which a fault mentions them. -/
def renderNamed (name : String) (parts : List Template.Part) (scope : Template.Scope) :
    Except Fault String :=
  match Template.renderParts scope parts with
  | .ok text => .ok text
  | .error e =>
    .error (.template ("Failed to render template '" ++ name ++ "': " ++ e.describe))

/-- The renderer of two templates. -/
def ofParts (controller serviceModel : List Template.Part) : Renderer where
  controller s := do
    let view ← ControllerView.ofService s
    renderNamed "controller.rs.tera" controller view.toScope
  serviceModel moduleName model :=
    renderNamed "service_model.rs.tera" serviceModel (ModelView.of moduleName model).toScope

/-- The renderer of the built-in templates. -/
def builtIn : Renderer :=
  ofParts ControllerView.template ModelView.template

/-- Reads a template text. -/
def parseTemplate (text : String) : Except Fault (List Template.Part) :=
  match Template.parse text with
  | .ok parts => .ok parts
  | .error e => .error (.template ("Failed to add template: " ++ e.describe))

/-- The renderer of two template texts. -/
def ofTexts (controller serviceModel : String) : Except Fault Renderer := do
  let controller ← parseTemplate controller
  let serviceModel ← parseTemplate serviceModel
  return ofParts controller serviceModel

end Renderer

end ServiceStubs
