import ServiceStubs.Build
import ServiceStubs.Json.Any
import ServiceStubs.Proofs.Service.Confinement
import ServiceStubs.Proofs.Service.ControllerDeclarations
import ServiceStubs.Proofs.Service.Dispatcher
import ServiceStubs.Proofs.Service.ModelUnit
import ServiceStubs.Proofs.Run.Commit
import ServiceStubs.Proofs.Json.Reading
import ServiceStubs.Proofs.Json.Layout
import ServiceStubs.Proofs.Service.Document
import ServiceStubs.Proofs.Schema
import ServiceStubs.Proofs.Extraction
import ServiceStubs.Proofs.Run.Phases
import ServiceStubs.Proofs.Declarations.Sites
import ServiceStubs.Proofs.Declarations.Joining
import ServiceStubs.Proofs.Declarations.Services
import ServiceStubs.Proofs.Declarations.Placement
import ServiceStubs.Proofs.Declarations.Apart
import ServiceStubs.Proofs.Service.Handlers
import ServiceStubs.Proofs.Run.Reloading
import ServiceStubs.Proofs.Run.Routes
import ServiceStubs.Proofs.Json.Occurrence
import ServiceStubs.Proofs.Text.Embedded
import ServiceStubs.Proofs.Run.EmbeddedModel
import ServiceStubs.Proofs.Run.Dependence
import ServiceStubs.Proofs.Run.Refusal
import ServiceStubs.Proofs.Config
import ServiceStubs.Proofs.Run.Directives
import ServiceStubs.Proofs.Run.SharedNames
import ServiceStubs.Proofs.Template.BuiltIn
import ServiceStubs.Proofs.Run.Reported
import ServiceStubs.Proofs.Build.Effects
import ServiceStubs.Proofs.Build.Analysis
import ServiceStubs.Proofs.Service.HandlerSearch
import ServiceStubs.Proofs.Json.Members
import ServiceStubs.Proofs.Json.Values
import ServiceStubs.Proofs.Json.Unambiguous
import ServiceStubs.Proofs.Json.Compact
import ServiceStubs.Proofs.Service.Tolerance
import ServiceStubs.Proofs.Json.Variants
import ServiceStubs.Proofs.Run.HandOver
import ServiceStubs.Proofs.Disk.Files
import ServiceStubs.Proofs.Disk.Rewriting
import ServiceStubs.Proofs.Disk.Outcomes
import ServiceStubs.Proofs.Disk.Containment
import ServiceStubs.Proofs.Build.Rebuilding
import ServiceStubs.Proofs.Staging.Attempts
import ServiceStubs.Proofs.Run.Notices
import ServiceStubs.Proofs.Path
import ServiceStubs.Proofs.Declarations.ModulePath
import ServiceStubs.Proofs.Build.Roots
import ServiceStubs.Proofs.Rust.StringBody
import ServiceStubs.Proofs.Text.Delimiters
import ServiceStubs.Proofs.Text.OneLine
import ServiceStubs.Proofs.Naming.SnakeCase
