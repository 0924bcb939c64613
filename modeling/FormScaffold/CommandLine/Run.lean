import FormScaffold.Archive.Reader
import FormScaffold.CommandLine.Call
import FormScaffold.CommandLine.Report
import FormScaffold.Config.Discovery
import FormScaffold.Form.File
import FormScaffold.Job.Record
import FormScaffold.Json.Writer
import FormScaffold.Output.SizeText
import FormScaffold.Pipeline.Workspace

/-!
# Running calls

Every call first finds its configuration.  A failure is reported with what the call was
doing when it occurred.
-/

namespace FormScaffold.CommandLine

/-! ## Running calls -/

open Files

/-- Steps of a call on a workspace; the report of a failure ends the call. -/
abbrev Running := ExceptT Report (StateM Workspace)

/-- Report an input error that occurred while something was done. -/
def whileReading {α : Type} (doing : String) : Except InputError α → Running α
  | .ok a => pure a
  | .error e => throw (.failed doing (e.message :: e.causeText?.toList))

/-- Report a failure that occurred while something was done. -/
def whileDoing {α : Type} (doing : String) : Except Failure α → Running α
  | .ok a => pure a
  | .error f => throw (.failed doing (f.message :: f.causeText?.toList))

/-- The files as they are. -/
def currentFiles : Running FileSystem := do return (← get).files

/-- Work on the files while something is done. -/
def onFiles {α : Type} (doing : String) (a : Action Failure α) : Running α := do
  let r ← ExceptT.lift (Workspace.onFiles a).run
  whileDoing doing r

/-- The folder of a user's own configuration. -/
def userFolder? (environment : List (String × String)) : Option String :=
  let own := (environment.lookup "XDG_CONFIG_HOME").filter Path.isAbsolute
  let home := (environment.lookup "HOME").filter (· != "")
  own.or (home.map fun h => Path.join h ".config")

/-- The configuration of a call. -/
def findConfig (call : Call) : Running Config := do
  let space ← get
  let found := Config.discover space.files call.config (userFolder? space.environment)
    (space.environment.lookup Config.templatesVariable)
  let config ← whileReading "Failed to load configuration" found
  return { config with templatesDir := call.templatesDir.getD config.templatesDir }

/-- The lines of a job's stored form. -/
def jobLines (j : Job) : List String := [j.toJson.prettyText]

/-- The lines that sum up a completed job. -/
def summaryLines (j : Job) : List String :=
  ["Job " ++ j.id.text ++ " " ++ j.status.name, "Artifacts: " ++ toString j.artifactCount]
    ++ j.artifacts.map (fun a => "  " ++ Text.padRight 22 a.kind.tag ++ " " ++ a.filePath)
    ++ (match j.output with
        | some o =>
            ["Output folder: " ++ o.folder,
             "Archive: " ++ o.archive ++ " (" ++ Output.sizeText o.archiveSize ++ ")"]
        | none => [])

/-- Generate from a form; the identifiers are those of the form and of its revision. -/
def generate (config : Config) (formId revisionId : Uuid) (task : GenerateTask) :
    Running Report := do
  let config := { config with
    outputDir := task.outputDir.getD config.outputDir
    archiveDir := task.archiveDir.getD config.archiveDir }
  let files ← currentFiles
  let form ← whileReading ("Failed to load form definition " ++ task.form)
    (FormDefinition.load files task.form)
  let pipeline ← whileDoing "Failed to set up the generation pipeline" (config.pipeline files)
  let request : GenerationRequest := ⟨formId, revisionId, 1, form, task.options, task.requestedBy⟩
  match ← ExceptT.lift (pipeline.generate request) with
  | .ok job => return .success (if task.asJson then jobLines job else summaryLines job)
  | .error (.jobFailed job cause) =>
      let f := RunFailure.jobFailed job cause
      return ⟨if task.asJson then jobLines job else [], some (f.message, [])⟩
  | .error (.rejected cause) => whileDoing "Generation request rejected" (.error cause)

/-- The registry of a configuration. -/
def loadRegistry (config : Config) : Running Registry := do
  whileDoing "Failed to load template registry" (config.registry (← currentFiles))

/-- The line of a template in a list. -/
def templateLine (files : FileSystem) (registry : Registry) (e : TemplateEntry) : String :=
  "  " ++ Text.padRight 22 e.name ++ " " ++ Text.padRight 20 e.kind.tag ++ " " ++ e.outputPattern
    ++ (if registry.isAvailable files e.name then "" else " (missing)")

/-- The lines of a category that has templates. -/
def categoryLines (files : FileSystem) (registry : Registry) (c : ArtifactCategory) :
    List String :=
  match registry.inCategory c with
  | [] => []
  | entries => (c.heading ++ ":") :: entries.map (templateLine files registry)

/-- List the templates by category. -/
def listTemplates (config : Config) : Running Report := do
  let registry ← loadRegistry config
  let files ← currentFiles
  return .success (ArtifactCategory.all.flatMap (categoryLines files registry)
    ++ [toString registry.size ++ " templates"])

/-- Check that every template has its source file. -/
def validateTemplates (config : Config) : Running Report := do
  let registry ← loadRegistry config
  let missing := registry.missing (← currentFiles)
  let lines := missing.map fun p => "missing: " ++ p.1 ++ " (" ++ p.2 ++ ")"
  if missing.isEmpty then
    return .success ["All " ++ toString registry.size ++ " templates present in " ++ registry.root]
  else
    return ⟨lines, some (toString missing.length ++ " of " ++ toString registry.size
      ++ " templates are missing their source file", [])⟩

/-- List the entries of an archive. -/
def listArchive (archive : String) : Running Report := do
  let names ← onFiles ("Failed to read archive " ++ archive) (Archive.entryNames archive)
  return .success names

/-- Extract an archive. -/
def extractArchive (archive destination : String) : Running Report := do
  let written ← onFiles ("Failed to extract archive " ++ archive)
    (Archive.extract archive destination)
  return .success ["Extracted " ++ toString written.length ++ " files to " ++ destination]

/-- Do the task of a call. -/
def perform (config : Config) (formId revisionId : Uuid) : Task → Running Report
  | .generate task => generate config formId revisionId task
  | .listTemplates => listTemplates config
  | .validateTemplates => validateTemplates config
  | .listArchive archive => listArchive archive
  | .extractArchive archive destination => extractArchive archive destination

/-- Run a call. -/
def run (call : Call) (formId revisionId : Uuid) : StateM Workspace Report := do
  let attempt : Running Report := do
    let config ← findConfig call
    perform config formId revisionId call.task
  match ← attempt.run with
  | .ok report => return report
  | .error report => return report

/-!
## What a call looks at

The parts of the files that decide what a call does.  Which parts these are depends on
files in turn: the configuration names folders, and a manifest names sources.  So they are
told as far as the files that are known tell them; once those told are known, more may be
told, and after three rounds all are.
-/

open Files

/-- A part of the files. -/
inductive Need where
  /-- What a path holds. -/
  | single (path : String)
  /-- What a path holds, and all below it. -/
  | whole (path : String)
  deriving DecidableEq, Repr

/-- The files that may hold the configuration. -/
def configNeeds (call : Call) (space : Workspace) : List Need :=
  match call.config with
  | some path => [.single path]
  | none => (Config.usualPlaces (userFolder? space.environment)).map .single

/-- The manifest, and the sources of the templates. -/
def registryNeeds (config : Config) (files : FileSystem) : List Need :=
  let sources :=
    match config.registry files with
    | .ok registry => registry.entries.map fun e => Need.single (registry.sourceOf e)
    | .error _ => []
  (config.manifest.map Need.single).toList ++ sources

/-- The parts that a generation looks at and replaces. -/
def generateNeeds (config : Config) (space : Workspace) (task : GenerateTask) : List Need :=
  let folder := Output.folderName task.options.projectName
  let outputDir := task.outputDir.getD config.outputDir
  let archiveDir := task.archiveDir.getD config.archiveDir
  registryNeeds config space.files
    ++ [.single task.form, .whole (Path.join outputDir folder),
        .single (Path.join archiveDir (Output.archiveName folder space.clock.now))]

/-- The parts that a task looks at and replaces. -/
def taskNeeds (config : Config) (space : Workspace) : Task → List Need
  | .generate task => generateNeeds config space task
  | .listTemplates | .validateTemplates => registryNeeds config space.files
  | .listArchive archive => [.single archive]
  | .extractArchive archive destination => [.single archive, .whole destination]

/-- The parts that a call looks at and replaces, as far as the known files tell. -/
def needs (call : Call) (space : Workspace) : List Need :=
  match ((findConfig call).run space).1 with
  | .ok config => configNeeds call space ++ taskNeeds config space call.task
  | .error _ => configNeeds call space

end FormScaffold.CommandLine
