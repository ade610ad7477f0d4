import ServiceStubs.Declarations.OfRust
import ServiceStubs.Disk.Sink
import ServiceStubs.Run.Basic

/-!
# Builds

A build gathers the request of a run from a disk, runs it, and writes the units into the output
directory.  Whatever goes wrong with the disk ends the build; whatever goes wrong in the run is
reported.
-/

namespace ServiceStubs

/-- A directory of sources, and the module path that it stands for. -/
structure SourceRoot where
  directory : String
  scope : String
  deriving DecidableEq, Repr

/-- What ends a build. -/
inductive BuildFault where
  | unset (variableName : String)
  | unreadable (path : String)
  | unwalkable (directory : String)
  | unwritable (cause : Fault)
  deriving DecidableEq, Repr

/-- The wording of what ends a build. -/
def BuildFault.message : BuildFault → String
  | unset variableName => variableName ++ " is not set"
  | unreadable path => "Failed to read " ++ path
  | unwalkable directory => "Failed to walk source root " ++ directory
  | unwritable _ => "Failed to write generated units"

/-- The settings of a build. -/
structure Build where
  moduleName : String
  outputDirectory : String
  sourceRoots : List SourceRoot
  auxiliaryFiles : List String
  deriving DecidableEq, Repr

namespace Build

/-- The settings that the environment of a package gives.  A dash in its name is an underscore in
the name of its module. -/
def ofEnvironment (environment : List (String × String)) (sourceRoots : List SourceRoot)
    (auxiliaryFiles : List String) : Except BuildFault Build :=
  match environment.lookup "CARGO_PKG_NAME" with
  | none => .error (.unset "CARGO_PKG_NAME")
  | some name =>
    match environment.lookup "OUT_DIR" with
    | none => .error (.unset "OUT_DIR")
    | some outputDirectory =>
      let moduleName := String.ofList (name.toList.map fun c => if c = '-' then '_' else c)
      .ok { moduleName, outputDirectory, sourceRoots, auxiliaryFiles }

/-! ## Gathering -/

/-- Reads the file at a path. -/
def readText (d : Disk) (path : String) : Except BuildFault String :=
  match d.readText? path with
  | some text => .ok text
  | none => .error (.unreadable path)

/-- Reads the auxiliary files. -/
def readAuxiliary (b : Build) (d : Disk) : Except BuildFault (List AuxiliaryText) :=
  b.auxiliaryFiles.mapM fun path => do return ⟨path, ← readText d path⟩

/-- Whether a file is a source, by its name. -/
def isSource (fileName : String) : Bool :=
  ['.', 'r', 's'].isSuffixOf fileName.toList && 3 < fileName.length

/-- The source files of a root, with the names on the way to each. -/
def sourceNames (d : Disk) (root : SourceRoot) : Except BuildFault (List (List String)) :=
  match d.find root.directory with
  | .ok (l, .directory) =>
    .ok (((d.files l).map Prod.fst).filter fun names => (names.getLast?.map isSource).getD false)
  | .ok (_, .file _) =>
    .ok (if ((Path.names root.directory).getLast?.map isSource).getD false then [[]] else [])
  | .error _ => .error (.unwalkable root.directory)

/-- Reads a source file of a root. -/
def readSource (d : Disk) (root : SourceRoot) (names : List String) :
    Except BuildFault SourceText := do
  let path := names.foldl Path.join root.directory
  let text ← readText d path
  return ⟨path, ModulePath.ofFile root.scope (String.intercalate "/" names), text⟩

/-- Reads the sources of all roots. -/
def readSources (b : Build) (d : Disk) : Except BuildFault (List SourceText) := do
  let found ← b.sourceRoots.mapM fun root => do
    (← sourceNames d root).mapM (readSource d root)
  return found.flatten

/-- Whether a configuration asks for the declarations of the sources.  One that cannot be read
is left to the run. -/
def needsSources : Except Fault (Option Config) → Bool
  | .ok (some config) => config.servicesNamespace.isSome
  | _ => false

/-- The declarations that a run needs, or the report that the sources cannot be analyzed. -/
def declarations (b : Build) (d : Disk) (needed : Bool) (wording : Wording := .plain) :
    Except BuildFault (Except Report Snapshot) :=
  if needed then do
    match Snapshot.ofRust (← b.readSources d) wording with
    | .ok snapshot => return .ok snapshot
    | .error fault => return .error (.failed [fault.toDiagnostic])
  else return .ok ⟨[]⟩

/-! ## Building -/

/-- Runs a request and writes its units. -/
def finish (b : Build) (d : Disk) (request : Request) (wording : Wording := .plain)
    (fates : Disk.WriteFates := {}) : Noted (Except BuildFault Report × Disk) := do
  let report ← request.run .builtIn wording
  match d.writeUnits b.outputDirectory report.units fates with
  | (.ok (), d) => return (.ok report, d)
  | (.error cause, d) => return (.error (.unwritable cause), d)

/-- Runs a build on a disk, with readers of a given wording and given fates of what is written. -/
def run (b : Build) (d : Disk) (wording : Wording := .plain) (fates : Disk.WriteFates := {}) :
    Noted (Except BuildFault Report × Disk) :=
  match b.readAuxiliary d with
  | .error fault => return (.error fault, d)
  | .ok texts => do
    let config ← Config.resolve texts
    match b.declarations d (needsSources config) wording with
    | .error fault => return (.error fault, d)
    | .ok (.error report) => return (.ok report, d)
    | .ok (.ok declarations) =>
      b.finish d { moduleName := b.moduleName, declarations, texts } wording fates

/-- What a build tells its package manager: the inputs to watch, and the diagnostics. -/
def directives (b : Build) (report : Report) : List String :=
  let watched := b.sourceRoots.map SourceRoot.directory ++ b.auxiliaryFiles
  watched.map ("cargo:rerun-if-changed=" ++ ·)
    ++ report.diagnostics.map fun d => "cargo:warning=" ++ d.render

/-- What the package manager reads: every directive with a line break behind it. -/
def printed (b : Build) (report : Report) : String :=
  String.join ((b.directives report).map (· ++ "\n"))

end Build

end ServiceStubs
