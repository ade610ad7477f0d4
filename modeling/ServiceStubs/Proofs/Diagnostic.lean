import ServiceStubs.Fault
import ServiceStubs.Proofs.Text.Lines

/-!
# Diagnostics on one line

A diagnostic is rendered for a reader who takes one line for each.  All that can break the line is a
name that its message quotes as it stands: that of a service or an operation, or the namespace of a
service.
-/

namespace ServiceStubs

open ServiceStubs.Text (IsOneLine isOneLine_append isOneLine_toString)

variable {d : Diagnostic} {path reason name : String}

namespace Diagnostic

/-- The message of the diagnostic quotes the name as it stands. -/
inductive Quotes : Diagnostic → String → Prop where
  | identifier (name : String) (role : Role) :
      Quotes (Fault.invalidIdentifier name role).toDiagnostic name
  | operation (path : String) (position : Nat) (name : String) :
      Quotes (Fault.schemaMalformed path ("operation at index " ++ toString position ++
        " of service '" ++ name ++ "' has an empty Name")).toDiagnostic name
  | service (name scope : String) : Quotes (Fault.duplicateService name scope).toDiagnostic name
  | scope (name scope : String) : Quotes (Fault.duplicateService name scope).toDiagnostic scope

theorem isOneLine_severity (severity : Severity) : IsOneLine severity.label := by
  cases severity <;> decide

theorem isOneLine_render_iff : IsOneLine d.render ↔
    IsOneLine d.id ∧ IsOneLine d.message ∧ ∀ location ∈ d.location, IsOneLine location := by
  obtain ⟨id, severity, message, location⟩ := d
  have hopen : IsOneLine "[" := by decide
  have hclose : IsOneLine "]: " := by decide
  have hline : IsOneLine (severity.label ++ "[" ++ id ++ "]: " ++ message) ↔
      IsOneLine id ∧ IsOneLine message := by
    simp only [isOneLine_append, isOneLine_severity, hopen, hclose, and_true, true_and]
  cases location with
  | none =>
    show IsOneLine (severity.label ++ "[" ++ id ++ "]: " ++ message) ↔ _
    rw [hline]
    exact ⟨fun h => ⟨h.1, h.2, nofun⟩, fun h => ⟨h.1, h.2.1⟩⟩
  | some location =>
    have hbefore : IsOneLine " (" := by decide
    have hafter : IsOneLine ")" := by decide
    show IsOneLine (severity.label ++ "[" ++ id ++ "]: " ++ message ++ " (" ++ location ++ ")") ↔ _
    rw [isOneLine_append, isOneLine_append, isOneLine_append, hline]
    simp only [hbefore, hafter, and_true, Option.mem_some_iff, forall_eq', and_assoc]

/-- The diagnostic is rendered on one line, unless a name that it quotes has more. -/
def IsTold (d : Diagnostic) : Prop := IsOneLine d.render ∨ ∃ name, d.Quotes name ∧ ¬ IsOneLine name

end Diagnostic

/-! ## Messages -/

namespace Fault

variable {fault : Fault} {role : Role} {scope : String} {position : Nat}

theorem isOneLine_id (fault : Fault) : IsOneLine fault.id := by
  have hids : ∀ id ∈ ["SG0001", "SG0002", "SG0003", "SG0004", "SG0005", "SG0006", "SG0007",
      "SG0008", "SG0009"], IsOneLine id := by decide
  refine hids _ ?_
  cases fault <;> simp [id]

theorem isOneLine_configMalformed (h : IsOneLine reason) :
    IsOneLine (configMalformed path reason).message := by
  have hstart : IsOneLine "Malformed analyzer config: " := by decide
  exact hstart.append h

theorem isOneLine_schemaMalformed (path : String) :
    IsOneLine (schemaMalformed path reason).message ↔ IsOneLine reason := by
  have hstart : IsOneLine "Malformed service schema: " := by decide
  exact isOneLine_append.trans (and_iff_right hstart)

theorem isOneLine_sourceUnparseable (h : IsOneLine reason) :
    IsOneLine (sourceUnparseable path reason).message := by
  have hstart : IsOneLine "Failed to parse source: " := by decide
  exact hstart.append h

theorem isOneLine_duplicateUnit (h : IsOneLine name) :
    IsOneLine (duplicateUnit name).message := by
  have hstart : IsOneLine "Duplicate generated unit name: " := by decide
  exact hstart.append h

theorem isOneLine_invalidIdentifier :
    IsOneLine (invalidIdentifier name role).message ↔ IsOneLine name := by
  have hopen : IsOneLine "'" := by decide
  have hmiddle : IsOneLine "' is not a valid " := by decide
  have hrole : IsOneLine role.label := by cases role <;> decide
  have hend : IsOneLine " identifier" := by decide
  show IsOneLine ("'" ++ name ++ "' is not a valid " ++ role.label ++ " identifier") ↔ _
  simp only [isOneLine_append, hopen, hmiddle, hrole, hend, and_true, true_and]

theorem isOneLine_duplicateService :
    IsOneLine (duplicateService name scope).message ↔ IsOneLine name ∧ IsOneLine scope := by
  have hstart : IsOneLine "Duplicate service name '" := by decide
  have hmiddle : IsOneLine "' in namespace '" := by decide
  have hend : IsOneLine "'" := by decide
  show IsOneLine ("Duplicate service name '" ++ name ++ "' in namespace '" ++ scope ++ "'") ↔ _
  simp only [isOneLine_append, hstart, hmiddle, hend, and_true, true_and]

theorem isOneLine_operation : IsOneLine ("operation at index " ++ toString position ++
    " of service '" ++ name ++ "' has an empty Name") ↔ IsOneLine name := by
  have hstart : IsOneLine "operation at index " := by decide
  have hmiddle : IsOneLine " of service '" := by decide
  have hend : IsOneLine "' has an empty Name" := by decide
  simp only [isOneLine_append, isOneLine_toString, hstart, hmiddle, hend, and_true, true_and]

end Fault

/-! ## What can break the line -/

theorem Diagnostic.Quotes.isOneLine (h : d.Quotes name) (hrender : IsOneLine d.render) :
    IsOneLine name := by
  have hmessage := (Diagnostic.isOneLine_render_iff.mp hrender).2.1
  cases h with
  | identifier => exact Fault.isOneLine_invalidIdentifier.mp hmessage
  | operation path =>
    exact Fault.isOneLine_operation.mp ((Fault.isOneLine_schemaMalformed path).mp hmessage)
  | service => exact (Fault.isOneLine_duplicateService.mp hmessage).1
  | scope => exact (Fault.isOneLine_duplicateService.mp hmessage).2

/-- A diagnostic of the library is on one line exactly if the names that it quotes are. -/
theorem Diagnostic.IsTold.isOneLine_iff (h : d.IsTold) :
    IsOneLine d.render ↔ ∀ name, d.Quotes name → IsOneLine name := by
  constructor
  · intro hrender name hname
    exact hname.isOneLine hrender
  · intro hall
    rcases h with hrender | ⟨name, hname, hbreak⟩
    · exact hrender
    · exact absurd (hall name hname) hbreak

namespace Fault

variable {fault : Fault}

theorem isTold_of_message (hmessage : IsOneLine fault.message)
    (hlocation : ∀ path ∈ fault.location?, IsOneLine path) : fault.toDiagnostic.IsTold :=
  .inl (Diagnostic.isOneLine_render_iff.mpr ⟨fault.isOneLine_id, hmessage, hlocation⟩)

/-- A fault of an input at a path. -/
theorem isTold_of_located (hlocation : fault.location? = some path) (hpath : IsOneLine path)
    (hmessage : IsOneLine fault.message) : fault.toDiagnostic.IsTold := by
  refine isTold_of_message hmessage ?_
  rw [hlocation]
  rintro _ ⟨⟩
  exact hpath

theorem isTold_invalidIdentifier (name : String) (role : Role) :
    (invalidIdentifier name role).toDiagnostic.IsTold := by
  by_cases hname : IsOneLine name
  · exact isTold_of_message (isOneLine_invalidIdentifier.mpr hname) nofun
  · exact .inr ⟨name, .identifier name role, hname⟩

theorem isTold_duplicateService (name scope : String) :
    (duplicateService name scope).toDiagnostic.IsTold := by
  by_cases hname : IsOneLine name
  · by_cases hscope : IsOneLine scope
    · exact isTold_of_message (isOneLine_duplicateService.mpr ⟨hname, hscope⟩) nofun
    · exact .inr ⟨scope, .scope name scope, hscope⟩
  · exact .inr ⟨name, .service name scope, hname⟩

theorem isTold_operation (hpath : IsOneLine path) (position : Nat) (name : String) :
    (schemaMalformed path ("operation at index " ++ toString position ++ " of service '" ++ name
      ++ "' has an empty Name")).toDiagnostic.IsTold := by
  by_cases hname : IsOneLine name
  · refine isTold_of_located rfl hpath ((isOneLine_schemaMalformed path).mpr ?_)
    exact isOneLine_operation.mpr hname
  · exact .inr ⟨name, .operation path position name, hname⟩

end Fault

end ServiceStubs
