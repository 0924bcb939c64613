import FormScaffold.Artifact.Basic
import FormScaffold.Job.Uuid
import FormScaffold.Options.Basic

/-!
# Jobs

A job records one run of the generator: what was asked for, how far the run has
come, the files made so far, and where they were put.  A job starts pending, is
processed, and ends completed or failed.  Files and output belong to the time of
processing; an ended job never changes again.
-/

namespace FormScaffold

open Calendar

/-- What a job is asked to do, by whom and when. -/
structure JobRequest where
  formId : Uuid
  revisionId : Uuid
  formVersion : Nat
  options : GenerationOptions
  requestedAt : Instant
  requestedBy : String
  deriving DecidableEq, Repr

/-- How far a job has come. -/
inductive JobState where
  | pending
  | processing
  | completed (time : Instant)
  | failed (time : Instant) (error : String)
  deriving DecidableEq, Repr

/-- Where a job has put its files. -/
structure JobOutput where
  folder : String
  archive : String
  archiveSize : Nat
  deriving DecidableEq, Repr

/-- One run of the generator. -/
structure Job where
  id : Uuid
  request : JobRequest
  state : JobState
  artifacts : List Artifact
  output : Option JobOutput
  deriving DecidableEq, Repr

/-- What happened to a job. -/
inductive JobEvent where
  | created (jobId formId : Uuid)
  | processing (jobId : Uuid)
  | completed (jobId : Uuid) (artifactCount : Nat) (archive : Option String)
  | failed (jobId : Uuid) (error : String)
  deriving DecidableEq, Repr

namespace JobState

/-- The status that a state shows. -/
def status : JobState → JobStatus
  | pending => .pending
  | processing => .processing
  | completed _ => .completed
  | failed _ _ => .failed

/-- When the job ended. -/
def endTime? : JobState → Option Instant
  | pending | processing => none
  | completed time => some time
  | failed time _ => some time

/-- Why the job failed. -/
def error? : JobState → Option String
  | failed _ error => some error
  | _ => none

end JobState

namespace JobEvent

/-- The job that an event is about. -/
def jobId : JobEvent → Uuid
  | created id _ => id
  | processing id => id
  | completed id _ _ => id
  | failed id _ => id

/-- The name of an event. -/
def name : JobEvent → String
  | created _ _ => "created"
  | processing _ => "processing"
  | completed _ _ _ => "completed"
  | failed _ _ => "failed"

/-- The data of an event. -/
def toJson : JobEvent → Json.Value
  | created id form =>
      .object [("Created", .object [("job_id", .string id.text), ("form_id", .string form.text)])]
  | processing id => .object [("Processing", .object [("job_id", .string id.text)])]
  | completed id count archive =>
      .object [("Completed", .object
        [("job_id", .string id.text), ("artifact_count", .ofNat count),
         ("archive_path", .ofOption .string archive)])]
  | failed id error =>
      .object [("Failed", .object [("job_id", .string id.text), ("error", .string error)])]

end JobEvent

/-- Accept a request with identifiers, a version, a requester and valid options. -/
def JobRequest.validate (r : JobRequest) : Except Failure Unit :=
  if r.formId.isNil then .error (.validation "Form id is required")
  else if r.revisionId.isNil then .error (.validation "Revision id is required")
  else if r.formVersion == 0 then .error (.validation "Form version must be positive")
  else if Text.isBlankText r.requestedBy then .error (.validation "Requester is required")
  else r.options.validate

/-- Accept an output with a folder, an archive and a positive size. -/
def JobOutput.validate (o : JobOutput) : Except Failure Unit :=
  if o.folder == "" then .error (.validation "Output folder is required")
  else if o.archive == "" then .error (.validation "Archive path is required")
  else if o.archiveSize == 0 then .error (.validation "Archive size must be positive")
  else .ok ()

namespace Job

/-- The status of a job. -/
def status (j : Job) : JobStatus := j.state.status

/-- The number of files that a job has made. -/
def artifactCount (j : Job) : Nat := j.artifacts.length

/-- The bytes of all files that a job has made. -/
def totalSize (j : Job) : Nat := (j.artifacts.map Artifact.size).foldr Nat.add 0

/-- The files of one kind in order. -/
def artifactsOf (j : Job) (kind : ArtifactKind) : List Artifact :=
  j.artifacts.filter fun a => a.kind == kind

/-- Whole milliseconds from the request to the end of a job. -/
def durationMs? (j : Job) : Option Int :=
  j.state.endTime?.map (j.request.requestedAt.millisecondsBetween ·)

/-- Make a pending job for a valid request. -/
def create (id : Uuid) (request : JobRequest) : Except Failure (Job × JobEvent) :=
  match request.validate with
  | .error f => .error f
  | .ok () => .ok (⟨id, request, .pending, [], none⟩, .created id request.formId)

/-- Start to process a pending job. -/
def startProcessing (j : Job) : Except Failure (Job × JobEvent) :=
  match j.state with
  | .pending => .ok ({ j with state := .processing }, .processing j.id)
  | _ => .error (.invalidState "start processing" j.status)

/-- Do something that only a job in processing allows. -/
def whileProcessing {α : Type} (j : Job) (operation : String) (result : Except Failure α) :
    Except Failure α :=
  match j.state with
  | .processing => result
  | _ => .error (.invalidState operation j.status)

/-- Add a file to a job in processing. -/
def addArtifact (j : Job) (a : Artifact) : Except Failure Job :=
  j.whileProcessing "add artifact to" (.ok { j with artifacts := j.artifacts ++ [a] })

/-- Record where the files of a job in processing were put. -/
def setOutput (j : Job) (o : JobOutput) : Except Failure Job :=
  j.whileProcessing "set output paths on"
    (match JobOutput.validate o with
     | .error f => .error f
     | .ok () => .ok { j with output := some o })

/-- End a job in processing well. -/
def complete (j : Job) (now : Instant) : Except Failure (Job × JobEvent) :=
  j.whileProcessing "complete"
    (.ok ({ j with state := .completed now },
      .completed j.id j.artifactCount (j.output.map JobOutput.archive)))

/-- End a job in processing with an error. -/
def fail (j : Job) (now : Instant) (error : String) : Except Failure (Job × JobEvent) :=
  j.whileProcessing "fail" (.ok ({ j with state := .failed now error }, .failed j.id error))

end Job

end FormScaffold
