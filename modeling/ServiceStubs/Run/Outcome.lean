import ServiceStubs.Notice
import ServiceStubs.Staging

/-!
# Outcomes

A pipeline ends in one of three ways: it had nothing to do, it registered units, or it failed.
A run of both pipelines is reported in the same three ways.
-/

namespace ServiceStubs

/-- Why a pipeline had nothing to do. -/
inductive IdleReason where
  | configMissing
  | namespaceUnset
  | schemaFileUnset
  | schemaFileAbsent
  deriving DecidableEq, Repr

/-- How a pipeline ended. -/
inductive Outcome where
  | idle (reason : IdleReason)
  | registered (units : List GeneratedUnit)
  | failed (diagnostic : Diagnostic)
  deriving DecidableEq, Repr

namespace Outcome

/-- The units that a pipeline registered. -/
def units : Outcome → List GeneratedUnit
  | registered units => units
  | _ => []

/-- The diagnostic of a pipeline that failed. -/
def diagnostic? : Outcome → Option Diagnostic
  | failed d => some d
  | _ => none

/-- Whether a pipeline failed. -/
def isFailed : Outcome → Bool
  | failed _ => true
  | _ => false

/-- Whether a pipeline registered units, be they none. -/
def isRegistered : Outcome → Bool
  | registered _ => true
  | _ => false

/-- The outcome of a pipeline that had something to do.  A failure is noticed. -/
def ofResult (pipeline : Pipeline) : Except Fault (List GeneratedUnit) → Noted Outcome
  | .ok units => return .registered units
  | .error fault => do
    Noted.tell (.pipelineFailed pipeline fault.id)
    return .failed fault.toDiagnostic

end Outcome

/-- How a run ended. -/
inductive RunState where
  | idle
  /-- Both pipelines ended well, with so many units. -/
  | registered (count : Nat)
  | failed
  deriving DecidableEq, Repr

/-- What a run hands to the host. -/
structure Report where
  state : RunState
  units : List GeneratedUnit
  diagnostics : List Diagnostic
  deriving DecidableEq, Repr

namespace Report

/-- The report of a run with nothing to do. -/
def idle : Report := ⟨.idle, [], []⟩

/-- The report of a run that failed: it has no units. -/
def failed (diagnostics : List Diagnostic) : Report := ⟨.failed, [], diagnostics⟩

/-- The report of a run that registered units. -/
def registered (units : List GeneratedUnit) : Report := ⟨.registered units.length, units, []⟩

/-- Whether a diagnostic is an error. -/
def hasErrors (r : Report) : Bool := r.diagnostics.any Diagnostic.isError

/-- The report on two pipelines.  If one failed, no unit of the run is registered; nor is any if
two units have one name. -/
def combine (model controllers : Outcome) : Noted Report := do
  let outcomes := [model, controllers]
  let units := outcomes.flatMap Outcome.units
  let diagnostics := outcomes.filterMap Outcome.diagnostic?
  if !diagnostics.isEmpty then
    Noted.tell (.runFailed diagnostics.length units.length)
    return failed diagnostics
  else if !outcomes.any Outcome.isRegistered then return idle
  else
    match Staging.empty.addAll units with
    | .ok staging => return registered staging.commit
    | .error fault =>
      Noted.tell .unitsClash
      return failed [fault.toDiagnostic]

end Report

end ServiceStubs
