import ServiceStubs.Config
import ServiceStubs.Extraction
import ServiceStubs.Renderer
import ServiceStubs.Run.Outcome
import ServiceStubs.Run.Request
import ServiceStubs.Schema

/-!
# Runs

A run resolves its configuration and goes through two pipelines.  One extracts services from the
declarations and writes their model into a single unit; the other reads services from a schema
and renders a controller for each.  Each pipeline can also be run alone.
-/

namespace ServiceStubs

namespace Pipeline

/-- The unit with the model of given services. -/
def modelUnits (renderer : Renderer) (moduleName : String) (services : List Service) :
    Except Fault (List GeneratedUnit) := do
  Service.checkUnique services
  let text ← renderer.serviceModel moduleName (Service.modelText services)
  let staging ← Staging.empty.add ⟨Naming.modelUnitName moduleName, text⟩
  return staging.commit

/-- The model pipeline under a configuration. -/
def runModel (renderer : Renderer) (config : Config) (request : Request) : Noted Outcome :=
  match config.servicesNamespace with
  | none => return .idle .namespaceUnset
  | some services => do
    let found ← Extraction.extract services config.targetNamespace request.declarations
    Outcome.ofResult .serviceModel (modelUnits renderer request.moduleName found)

/-- Stages the controllers of services, in order. -/
def stageControllers (renderer : Renderer) : Staging → List Service → Except Fault Staging
  | staging, [] => .ok staging
  | staging, s :: rest => do
    let text ← renderer.controller s
    let staging ← staging.add ⟨s.unitName, text⟩
    stageControllers renderer staging rest

/-- The controllers of given services. -/
def controllerUnits (renderer : Renderer) (services : List Service) :
    Except Fault (List GeneratedUnit) :=
  (stageControllers renderer .empty services).map Staging.commit

/-- The controller pipeline under a configuration. -/
def runControllers (renderer : Renderer) (config : Config) (request : Request)
    (wording : Wording := .plain) : Noted Outcome :=
  match config.schemaFileName with
  | none => return .idle .schemaFileUnset
  | some fileName =>
    match Schema.load request.texts fileName wording with
    | .ok none => return .idle .schemaFileAbsent
    | .ok (some services) => Outcome.ofResult .controllers (controllerUnits renderer services)
    | .error fault => Outcome.ofResult .controllers (.error fault)

end Pipeline

namespace Request

/-- The configuration of a request.  One that cannot be read is noticed and ends the run. -/
def resolveConfig (request : Request) : Noted (Except Diagnostic (Option Config)) := do
  match ← Config.resolve request.texts with
  | .ok config => return .ok config
  | .error fault =>
    Noted.tell .configMalformed
    return .error fault.toDiagnostic

/-- Runs one pipeline of a request. -/
def runPipeline (pipeline : Config → Request → Noted Outcome) (request : Request) :
    Noted Outcome := do
  match ← request.resolveConfig with
  | .ok (some config) => pipeline config request
  | .ok none => return .idle .configMissing
  | .error diagnostic => return .failed diagnostic

/-- Runs the model pipeline of a request. -/
def runModel (renderer : Renderer) (request : Request) : Noted Outcome :=
  request.runPipeline (Pipeline.runModel renderer)

/-- Runs the controller pipeline of a request. -/
def runControllers (renderer : Renderer) (request : Request) (wording : Wording := .plain) :
    Noted Outcome :=
  request.runPipeline (Pipeline.runControllers renderer · · wording)

/-- Runs both pipelines of a request. -/
def run (renderer : Renderer) (request : Request) (wording : Wording := .plain) :
    Noted Report := do
  match ← request.resolveConfig with
  | .ok (some config) =>
    let model ← Pipeline.runModel renderer config request
    let controllers ← Pipeline.runControllers renderer config request wording
    Report.combine model controllers
  | .ok none => return .idle
  | .error diagnostic => return .failed [diagnostic]

end Request

end ServiceStubs
