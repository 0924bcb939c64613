import FormScaffold.Job.Basic
import FormScaffold.Model.Basic
import FormScaffold.Output.Readme
import FormScaffold.Registry.Basic

/-!
# Services of a run

What a run needs from outside: someone who renders templates, lays out folders and packs
them, a clock, fresh identifiers, and word whether the run has been cancelled.  All of it
may depend on a state of the world and change it.
-/

namespace FormScaffold.Pipeline

open Calendar

/-- Something done in the world that may fail. -/
abbrev Attempt (ω α : Type) := ExceptT Failure (StateM ω) α

/-- Someone who is told what happens to a job, each time with the job as it is then. -/
abbrev Observer (ω : Type) := Job → JobEvent → StateM ω Unit

/-- What a run needs from the world. -/
structure Services (ω : Type) where
  /-- The text of a template for a model. -/
  render : TemplateEntry → Model → Attempt ω String
  /-- Lay out artifacts in the folder of a project. -/
  organize : List Artifact → String → Attempt ω Output.Organized
  /-- Pack a folder into an archive in another folder; the result is its path. -/
  createArchive : (source destination : String) → Attempt ω String
  /-- The size of an archive in bytes. -/
  archiveSize : String → Attempt ω Nat
  /-- The path holds a file. -/
  holdsFile : String → StateM ω Bool
  /-- The run has been cancelled. -/
  isCancelled : StateM ω Bool
  /-- What the clock shows. -/
  now : StateM ω Instant
  /-- An identifier that was not used before. -/
  freshId : StateM ω Uuid

end FormScaffold.Pipeline

namespace FormScaffold

/-- The generator: its templates, its services, who observes it, and where archives go. -/
structure Pipeline (ω : Type) where
  registry : Registry
  services : Pipeline.Services ω
  observers : List (Pipeline.Observer ω)
  archiveDir : String

end FormScaffold
