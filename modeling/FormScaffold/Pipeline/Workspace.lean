import FormScaffold.Archive.Packager
import FormScaffold.Config.Discovery
import FormScaffold.Output.Organizer
import FormScaffold.Pipeline.Run
import FormScaffold.Registry.ManifestFile
import FormScaffold.Registry.Standard
import FormScaffold.Template.Engine

/-!
# The generator on a file system

The services of a run on files: templates are rendered by an engine that keeps what it has
compiled, project folders are written and packed.  Whoever looks at the clock sees the next
of its readings.
-/

namespace FormScaffold

open Calendar Files

/-- A clock: what it shows, and what it shows when it is looked at again.  After its later
readings it stands still. -/
structure ClockReadings where
  now : Instant
  later : List Instant

/-- An instant stands for the clock that stands still at it. -/
instance : Coe Instant ClockReadings := ⟨fun now => ⟨now, []⟩⟩

/-- The clock after it has been looked at. -/
def ClockReadings.advanced (c : ClockReadings) : ClockReadings :=
  match c.later with
  | [] => c
  | next :: rest => ⟨next, rest⟩

/-- Files, compiled templates, a clock, the environment's variables and the identifier of the
next job. -/
structure Workspace where
  files : FileSystem
  engine : Template.Engine
  clock : ClockReadings
  environment : List (String × String)
  nextId : Uuid

namespace Workspace

/-- Work on the files of a workspace. -/
def onFiles {α : Type} (a : Action Failure α) : Pipeline.Attempt Workspace α := fun w =>
  let (r, files) := a.run w.files
  (r, { w with files := files })

/-- Look at the clock. -/
def readClock : StateM Workspace Instant := fun w =>
  (w.clock.now, { w with clock := w.clock.advanced })

/-- Work on the files of a workspace at the time that its clock shows. -/
def onFilesNow {α : Type} (a : Instant → Action Failure α) : Pipeline.Attempt Workspace α := fun w =>
  let (now, w) := readClock w
  onFiles (a now) w

/-- Render the source file of a template. -/
def render (registry : Registry) (entry : TemplateEntry) (model : Model) :
    Pipeline.Attempt Workspace String := fun w =>
  let (engine, r) :=
    w.engine.renderFile w.files ⟨w.clock.now, w.environment⟩ entry.name (registry.sourceOf entry)
      model.toJson
  (r, { w with engine := engine })

/-- The services of a run that nobody cancels. -/
def services [Archive.Codec] (registry : Registry) (organizer : Output.Organizer) :
    Pipeline.Services Workspace :=
  { render := render registry
    organize := fun artifacts project => onFilesNow (organizer.organize artifacts project)
    createArchive := fun source destination => onFilesNow (Archive.create source destination)
    archiveSize := fun path => onFiles (Archive.fileSize path)
    holdsFile := fun path w => (w.files.isFile path, w)
    isCancelled := pure false
    now := readClock
    freshId := fun w => (w.nextId, w) }

end Workspace

namespace Config

/-- The registry of the settings: that of a manifest, or the standard one. -/
def registry (c : Config) (fs : FileSystem) : Except Failure Registry :=
  match c.manifest with
  | some path => Registry.ofManifestFile fs path
  | none => Registry.standard c.templatesDir

/-- The organizer of the settings, which keeps projects away from archives. -/
def organizer (c : Config) : Except Failure Output.Organizer :=
  match Output.Organizer.create c.outputDir (Output.Layout.standard.insertAll c.folders) with
  | .ok o => .ok (o.protect c.archiveDir)
  | .error f => .error f

/-- The generator of the settings. -/
def pipeline [Archive.Codec] (c : Config) (fs : FileSystem) : Except Failure (Pipeline Workspace) :=
  match c.registry fs with
  | .error f => .error f
  | .ok registry =>
      match c.organizer with
      | .error f => .error f
      | .ok organizer => .ok ⟨registry, Workspace.services registry organizer, [], c.archiveDir⟩

end Config

end FormScaffold
