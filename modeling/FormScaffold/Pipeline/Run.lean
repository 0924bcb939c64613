import FormScaffold.Form.Definition
import FormScaffold.Job.Basic
import FormScaffold.Options.Family
import FormScaffold.Pipeline.Services

/-!
# Runs

A run makes a job for its request, renders the templates of the enabled families one after
the other, lays out the results and packs them.  It stops at the next template or stage
once it is cancelled.  Observers are told when the job is made, when it is processed, and
when it ends.
-/

namespace FormScaffold

/-!
## Failed runs

A run is rejected before it has a job, or it fails and leaves a failed job.
-/

/-- Why a run gives no completed job. -/
inductive RunFailure where
  | rejected (cause : Failure)
  | jobFailed (job : Job) (cause : Failure)
  deriving DecidableEq, Repr

namespace RunFailure

/-- The wording of a failed run. -/
def message : RunFailure → String
  | rejected cause => cause.message
  | jobFailed job cause => "Generation job " ++ job.id.text ++ " failed: " ++ cause.message

/-- The wording of a failed run and of its causes, each once. -/
def chain (f : RunFailure) : List String :=
  match f with
  | rejected cause => cause.chain
  | jobFailed _ cause => distinctTexts (f.message :: cause.message :: cause.causeText?.toList)

end RunFailure

/-!
## Requests

What one run of the generator is asked for: a form, options, and where both come from.
-/

open Calendar Record

/-- A request for one run. -/
structure GenerationRequest where
  formId : Uuid
  revisionId : Uuid
  formVersion : Nat
  form : FormDefinition
  options : GenerationOptions
  requestedBy : String
  deriving Repr

namespace GenerationRequest

/-- Read a request. -/
def decode {σ : Type} [Source σ] : Decode σ GenerationRequest :=
  Fields.decode (GenerationRequest.mk <$> .required "form_id" Uuid.decode
    <*> .required "revision_id" Uuid.decode
    <*> .required "form_version" word32
    <*> .required "definition" FormDefinition.decode
    <*> .required "options" GenerationOptions.decode
    <*> .required "requested_by" text)

/-- The job that a request asks for at an instant. -/
def toJobRequest (r : GenerationRequest) (now : Instant) : JobRequest :=
  ⟨r.formId, r.revisionId, r.formVersion, r.options, now, r.requestedBy⟩

/-- Accept a request with a usable form; its other parts are checked with the job. -/
def validateForm (r : GenerationRequest) : Except Failure Unit :=
  match r.form.validate with
  | .ok () => .ok ()
  | .error e => .error (.validation e.message)

end GenerationRequest

end FormScaffold

namespace FormScaffold.Pipeline

/-!
## Steps of a run

A step works on the job of its run in the world.  A step that fails keeps what was done to
both before.
-/

/-- A step of a run. -/
abbrev Step (ω α : Type) := ExceptT Failure (StateT Job (StateM ω)) α

namespace Step

variable {ω α : Type}

/-- Ask the world. -/
def ask (a : StateM ω α) : Step ω α := fun job world =>
  let (r, world) := a world
  ((.ok r, job), world)

/-- Do something in the world that may fail. -/
def attempt (a : Attempt ω α) : Step ω α := fun job world =>
  let (r, world) := a.run world
  ((r, job), world)

/-- A result that depends on neither job nor world. -/
def ofExcept (r : Except Failure α) : Step ω α := fun job world => ((r, job), world)

/-- The job of the run. -/
def job : Step ω Job := fun job world => ((.ok job, job), world)

/-- Change the job of the run. -/
def update (f : Job → Except Failure Job) : Step ω Unit := fun job world =>
  match f job with
  | .ok job' => ((.ok (), job'), world)
  | .error e => ((.error e, job), world)

end Step

/-! ## Runs -/

variable {ω : Type}

/-- Tell all observers of an event. -/
def notify (p : Pipeline ω) (job : Job) (event : JobEvent) : StateM ω Unit :=
  p.observers.forM fun observe => observe job event

/-- The name is registered and its source file is there. -/
def isAvailable (p : Pipeline ω) (name : String) : StateM ω Bool :=
  match Keyed.get? name p.registry.templates with
  | some entry => p.services.holdsFile (p.registry.sourceOf entry)
  | none => pure false

/-- Go on only if the run is not cancelled. -/
def ensureRunning (p : Pipeline ω) : Step ω Unit := do
  if ← Step.ask p.services.isCancelled then Step.ofExcept (.error .cancelled)

/-- Render a template and add the result to the job. -/
def renderEntry (p : Pipeline ω) (model : Model) (name : String) : Step ω Unit := do
  let entry ← Step.ofExcept (p.registry.get name)
  let content ← Step.attempt (p.services.render entry model)
  let now ← Step.ask p.services.now
  let artifact ← Step.ofExcept
    (Artifact.create entry.kind (entry.outputFileName model.entityName) content now)
  Step.update fun job => job.addArtifact artifact

/-- Render a template of a family, unless it is optional and not at hand. -/
def renderTemplate (p : Pipeline ω) (model : Model) (t : FamilyTemplate) : Step ω Unit := do
  p.ensureRunning
  if t.isOptional then
    if ← Step.ask (p.isAvailable t.name) then p.renderEntry model t.name
  else p.renderEntry model t.name

/-- Render templates in turn. -/
def renderTemplates (p : Pipeline ω) (model : Model) : List FamilyTemplate → Step ω Unit
  | [] => pure ()
  | t :: rest => do
      p.renderTemplate model t
      renderTemplates p model rest

/-- Render families in turn. -/
def renderFamilies (p : Pipeline ω) (model : Model) : List Family → Step ω Unit
  | [] => pure ()
  | family :: rest => do
      p.ensureRunning
      p.renderTemplates model family.templates
      renderFamilies p model rest

/-- Lay out the artifacts of the job. -/
def organizeOutput (p : Pipeline ω) (project : String) : Step ω Output.Organized := do
  p.ensureRunning
  let job ← Step.job
  Step.attempt (p.services.organize job.artifacts project)

/-- Pack a project folder and record both paths on the job. -/
def packOutput (p : Pipeline ω) (folder : String) : Step ω Unit := do
  p.ensureRunning
  let archive ← Step.attempt (p.services.createArchive folder p.archiveDir)
  let size ← Step.attempt (p.services.archiveSize archive)
  Step.update fun job => job.setOutput ⟨folder, archive, size⟩

/-- All that happens to a job in processing. -/
def process (p : Pipeline ω) (request : GenerationRequest) : Step ω Unit := do
  let job ← Step.job
  let model := Model.build request.form request.options job.request.requestedAt
  p.renderFamilies model (Family.enabled request.options)
  let organized ← p.organizeOutput request.options.projectName
  p.packOutput organized.root

/-- Move a job on and tell the observers. -/
def advance (p : Pipeline ω) (moved : Except Failure (Job × JobEvent)) :
    StateM ω (Except Failure Job) :=
  match moved with
  | .error f => pure (.error f)
  | .ok (job, event) => do
      p.notify job event
      pure (.ok job)

/-- End a job as its processing has ended. -/
def finish (p : Pipeline ω) (job : Job) (result : Except Failure Unit) :
    StateM ω (Except RunFailure Job) := do
  let now ← p.services.now
  match result with
  | .ok () =>
      match ← p.advance (job.complete now) with
      | .ok job => pure (.ok job)
      | .error f => pure (.error (.rejected f))
  | .error cause =>
      match ← p.advance (job.fail now cause.message) with
      | .ok job => pure (.error (.jobFailed job cause))
      | .error _ => pure (.error (.jobFailed job cause))

/-- Make the job of a request and start to process it. -/
def start (p : Pipeline ω) (request : GenerationRequest) : StateM ω (Except Failure Job) := do
  match request.validateForm with
  | .error f => pure (.error f)
  | .ok () =>
      let id ← p.services.freshId
      let now ← p.services.now
      match ← p.advance (Job.create id (request.toJobRequest now)) with
      | .error f => pure (.error f)
      | .ok job => p.advance job.startProcessing

/-- Run the generator for a request. -/
def generate (p : Pipeline ω) (request : GenerationRequest) : StateM ω (Except RunFailure Job) := do
  match ← p.start request with
  | .error f => pure (.error (.rejected f))
  | .ok job =>
      let (result, job) ← (p.process request).run.run job
      p.finish job result

end FormScaffold.Pipeline
