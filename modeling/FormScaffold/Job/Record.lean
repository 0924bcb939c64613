import FormScaffold.Job.Basic

/-!
# Stored jobs

The stored form of a job names everything a job knows, each part on its own.  It is
read back only if the parts agree as they do in a job that went through its life.  A job
can also be kept in this form, and then a method assigns one part after another.
-/

namespace FormScaffold.Job

open Calendar Record

/-- The stored form of a job. -/
def toJson (j : Job) : Json.Value :=
  .object
    [("id", .string j.id.text), ("form_id", .string j.request.formId.text),
     ("revision_id", .string j.request.revisionId.text),
     ("form_version", .ofNat j.request.formVersion), ("options", j.request.options.toJson),
     ("status", .string j.status.name), ("artifacts", .array (j.artifacts.map Artifact.toJson)),
     ("output_folder", .ofOption (fun o => .string o.folder) j.output),
     ("archive_path", .ofOption (fun o => .string o.archive) j.output),
     ("archive_size_bytes", .ofOption (fun o => .ofNat o.archiveSize) j.output),
     ("generated_artifact_count", .ofNat j.artifactCount),
     ("requested_at", .string j.request.requestedAt.zuluText),
     ("requested_by", .string j.request.requestedBy),
     ("completed_at", .ofOption (fun t => .string t.zuluText) j.state.endTime?),
     ("error_message", .ofOption .string j.state.error?)]

/-- What a stored job says, part by part. -/
structure Stored where
  id : Uuid
  formId : Uuid
  revisionId : Uuid
  formVersion : Nat
  options : GenerationOptions
  status : JobStatus
  artifacts : List Artifact
  outputFolder : Option String
  archivePath : Option String
  archiveSize : Option Nat
  artifactCount : Nat
  requestedAt : Instant
  requestedBy : String
  completedAt : Option Instant
  errorMessage : Option String

/-- The fields of a stored job. -/
def storedFields {σ : Type} [Source σ] : Fields σ Stored :=
  Stored.mk <$> .required "id" Uuid.decode
    <*> .required "form_id" Uuid.decode
    <*> .required "revision_id" Uuid.decode
    <*> .required "form_version" word32
    <*> .required "options" GenerationOptions.decode
    <*> .required "status" (choice JobStatus.byName)
    <*> .required "artifacts" (listOf Artifact.decode)
    <*> .optional "output_folder" text
    <*> .optional "archive_path" text
    <*> .optional "archive_size_bytes" word64
    <*> .required "generated_artifact_count" word64
    <*> .required "requested_at" Artifact.instant
    <*> .required "requested_by" text
    <*> .optional "completed_at" Artifact.instant
    <*> .optional "error_message" text

namespace Stored

/-- The request of a stored job. -/
def request (s : Stored) : JobRequest :=
  ⟨s.formId, s.revisionId, s.formVersion, s.options, s.requestedAt, s.requestedBy⟩

/-- The state of a stored job: an ended job has a time, not before its request, and
a failed one has an error. -/
def state (s : Stored) : Except Failure JobState :=
  match s.status.isTerminal, s.completedAt with
  | true, none => .error (.validation (s.status.name ++ " job has no completion time"))
  | false, some _ =>
      .error (.validation (s.status.name ++ " job cannot have a completion time"))
  | terminal, time =>
      if terminal && time.any (fun t => t.before s.requestedAt) then
        .error (.validation "Job completed before it was requested")
      else
        match s.status, time, s.errorMessage with
        | .pending, _, none => .ok .pending
        | .processing, _, none => .ok .processing
        | .completed, some t, none => .ok (.completed t)
        | .failed, some t, some e => .ok (.failed t e)
        | _, _, _ =>
            .error (.validation "Only failed jobs carry an error message, and every failed job does")

/-- The output of a stored job: all of folder, archive and size, or none of them. -/
def output (s : Stored) : Except Failure (Option JobOutput) :=
  let refused : Except Failure (Option JobOutput) :=
    .error (.validation "Output folder, archive path and archive size must be set together")
  match s.outputFolder, s.archivePath, s.archiveSize with
  | none, none, none => .ok none
  | some folder, some archive, some size =>
      let o : JobOutput := ⟨folder, archive, size⟩
      match JobOutput.validate o with
      | .ok () => if s.status == .pending then refused else .ok (some o)
      | .error _ => refused
  | _, _, _ => refused

/-- The job that a stored one stands for. -/
def toJob (s : Stored) : Except Failure Job := do
  if s.id.isNil then .error (.validation "Job id is required")
  s.request.validate
  if s.artifactCount != s.artifacts.length then
    .error (.validation ("Artifact count " ++ toString s.artifactCount ++ " does not match "
      ++ toString s.artifacts.length ++ " stored artifacts"))
  if s.status == .pending && !s.artifacts.isEmpty then
    .error (.validation "Pending job cannot hold artifacts")
  let state ← s.state
  let output ← s.output
  .ok ⟨s.id, s.request, state, s.artifacts, output⟩

end Stored

/-- Read a stored job. -/
def decode {σ : Type} [Source σ] : Decode σ Job := fun data =>
  match storedFields.decode data with
  | .error e => .error e
  | .ok s => Artifact.refusal s.toJob

/-!
## Jobs kept in place

A job can be kept as a record of all its parts, on which a method first makes its checks and then
assigns one part after another.  Here what a method has assigned before it fails stays assigned.
-/

/-- A method on a record.  When it fails, what it has assigned stays assigned. -/
abbrev Method (α : Type) := ExceptT Failure (StateM Stored) α

namespace Method

/-- Go on only where nothing speaks against it. -/
def refuseIf (refused : Bool) (cause : Failure) : Method Unit :=
  if refused then throw cause else pure ()

/-- Go on only with a job in a status. -/
def requireStatus (status : JobStatus) (operation : String) : Method Unit := do
  let s ← get
  refuseIf (s.status != status) (.invalidState operation s.status)

/-- Start to process a pending job. -/
def start : Method JobEvent := do
  requireStatus .pending "start processing"
  modify fun s => { s with status := .processing }
  let s ← get
  return .processing s.id

/-- Add an artifact and count the artifacts again. -/
def addArtifact (a : Artifact) : Method Unit := do
  requireStatus .processing "add artifact to"
  modify fun s => { s with artifacts := s.artifacts ++ [a] }
  modify fun s => { s with artifactCount := s.artifacts.length }

/-- Assign folder, archive and size of the output, after a check of each. -/
def setOutput (o : JobOutput) : Method Unit := do
  requireStatus .processing "set output paths on"
  refuseIf (o.folder == "") (.validation "Output folder is required")
  refuseIf (o.archive == "") (.validation "Archive path is required")
  refuseIf (o.archiveSize == 0) (.validation "Archive size must be positive")
  modify fun s => { s with outputFolder := some o.folder }
  modify fun s => { s with archivePath := some o.archive }
  modify fun s => { s with archiveSize := some o.archiveSize }

/-- End a job well. -/
def complete (now : Instant) : Method JobEvent := do
  requireStatus .processing "complete"
  modify fun s => { s with status := .completed }
  modify fun s => { s with completedAt := some now }
  let s ← get
  return .completed s.id s.artifactCount s.archivePath

/-- End a job with an error. -/
def fail (now : Instant) (error : String) : Method JobEvent := do
  requireStatus .processing "fail"
  modify fun s => { s with status := .failed }
  modify fun s => { s with completedAt := some now }
  modify fun s => { s with errorMessage := some error }
  let s ← get
  return .failed s.id error

end Method

end FormScaffold.Job
