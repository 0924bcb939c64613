import FormScaffold.Proofs.Pipeline.Transcript
import Mathlib.Tactic.SplitIfs

/-!
# Lifecycle of a run

A run either rejects its request before there is a job, and then nobody is told of anything,
or every observer is told three times: of the new job, of its processing and of its end.
How the job ended, what the last notice says and what the run returns agree, whatever the
services answer.  The facts about one stage are read off its part of the transcript, and
`generate_lifecycle` puts them together.
-/

namespace FormScaffold

open Calendar

/-! ## Rejections -/

theorem GenerationOptions.validate_error {o : GenerationOptions} {f : Failure}
    (h : o.validate = .error f) : ∃ text, f = .validation text := by
  unfold GenerationOptions.validate at h
  split_ifs at h <;> cases h <;> exact ⟨_, rfl⟩

theorem JobRequest.validate_error {r : JobRequest} {f : Failure} (h : r.validate = .error f) :
    ∃ text, f = .validation text := by
  unfold JobRequest.validate at h
  split_ifs at h
  · cases h; exact ⟨_, rfl⟩
  · cases h; exact ⟨_, rfl⟩
  · cases h; exact ⟨_, rfl⟩
  · cases h; exact ⟨_, rfl⟩
  · exact GenerationOptions.validate_error h

theorem GenerationRequest.validateForm_error {r : GenerationRequest} {f : Failure}
    (h : r.validateForm = .error f) : ∃ text, f = .validation text := by
  unfold GenerationRequest.validateForm at h
  split at h
  · cases h
  · cases h; exact ⟨_, rfl⟩

theorem JobOutput.archiveSize_pos {o : JobOutput} (h : o.validate = .ok ()) :
    0 < o.archiveSize := by
  unfold JobOutput.validate at h
  split_ifs at h with _ _ hsize
  simp only [beq_iff_eq] at hsize
  omega

/-- The status of a job that an event announces. -/
def JobEvent.announces : JobEvent → JobStatus
  | .created _ _ => .pending
  | .processing _ => .processing
  | .completed _ _ _ => .completed
  | .failed _ _ => .failed

namespace Pipeline

variable {ω : Type} {S : ω → Prop}

/-! ## Notices -/

/-- The notice that an exchange gives to one observer. -/
def Exchange.noticeTo? (observer : Nat) : Exchange → Option Notice
  | .told i notice => if i = observer then some notice else none
  | _ => none

/-- The notices that one observer gets, in order. -/
def noticesTo (observer : Nat) (exchanges : List Exchange) : List Notice :=
  exchanges.filterMap (Exchange.noticeTo? observer)

theorem noticesTo_append (observer : Nat) (before after : List Exchange) :
    noticesTo observer (before ++ after) =
      noticesTo observer before ++ noticesTo observer after := by
  simp [noticesTo]

theorem noticesTo_told (observer i : Nat) (notice : Notice) (after : List Exchange) :
    noticesTo observer (.told i notice :: after) =
      if i = observer then notice :: noticesTo observer after else noticesTo observer after := by
  by_cases h : i = observer <;> simp [noticesTo, Exchange.noticeTo?, h]

/-- Of one notice to each of the observers, every observer gets exactly its own. -/
theorem noticesTo_tellings (observer first count : Nat) (notice : Notice) :
    noticesTo observer (tellings first count notice) =
      if first ≤ observer ∧ observer < first + count then [notice] else [] := by
  induction count generalizing first with
  | zero => simp [tellings, noticesTo]
  | succ count ih =>
      have hsplit : tellings first (count + 1) notice =
          .told first notice :: tellings (first + 1) count notice := by
        simp [tellings, List.range'_succ]
      rw [hsplit, noticesTo_told, ih]
      -- The first telling is the observer's own, or the others decide.
      by_cases hfirst : first = observer
      · subst hfirst
        have hout : ¬ (first + 1 ≤ first ∧ first < first + 1 + count) := by omega
        have hin : first ≤ first ∧ first < first + (count + 1) := by omega
        rw [if_pos rfl, if_neg hout, if_pos hin]
      · have hrange : (first + 1 ≤ observer ∧ observer < first + 1 + count) ↔
            (first ≤ observer ∧ observer < first + (count + 1)) := by omega
        simp only [if_neg hfirst, hrange]

/-- Exchanges with services only, of which no observer hears. -/
def Silent (exchanges : List Exchange) : Prop := ∀ observer, noticesTo observer exchanges = []

theorem Silent.append {before after : List Exchange} (hbefore : Silent before)
    (hafter : Silent after) : Silent (before ++ after) := by
  intro observer
  rw [noticesTo_append, hbefore, hafter, List.append_nil]

theorem Lookup.silent {p : Pipeline ω} {t : FamilyTemplate} {looked : List Exchange}
    {there : Bool} (h : Lookup p S t looked there) : Silent looked := by
  cases h <;> exact fun _ => rfl

theorem Making.silent {p : Pipeline ω} {model : Model} {name : String} {own : List Exchange}
    {r : Except Failure Artifact} (h : Making p S model name own r) : Silent own := by
  cases h <;> exact fun _ => rfl

theorem Rendering.silent {p : Pipeline ω} {model : Model} {ts : List FamilyTemplate}
    {new : List Exchange} {r : Except Failure Unit} {made : List Artifact}
    (h : Rendering p S model ts new r made) : Silent new := by
  have hchecked : ∀ {after : List Exchange}, Silent after → Silent (.checked false :: after) :=
    fun hafter observer => hafter observer
  induction h with
  | done => exact fun _ => rfl
  | cancelled => exact fun _ => rfl
  | skipped hlook _ ih => exact hchecked (hlook.silent.append ih)
  | stopped _ hlook hown => exact hchecked (hlook.silent.append hown.silent)
  | made hlook hown _ ih => exact hchecked (hlook.silent.append (hown.silent.append ih))

theorem FamilyRendering.silent {p : Pipeline ω} {model : Model} {families : List Family}
    {new : List Exchange} {r : Except Failure Unit} {made : List Artifact}
    (h : FamilyRendering p S model families new r made) : Silent new := by
  induction h with
  | done => exact fun _ => rfl
  | cancelled => exact fun _ => rfl
  | stopped _ hown => exact fun observer => hown.silent observer
  | next hown _ ih => exact fun observer => hown.silent.append ih observer

theorem Packing.silent {p : Pipeline ω} {made : List Artifact} {project : String}
    {new : List Exchange} {r : Except Failure Unit} {output : Option JobOutput}
    (h : Packing p made project new r output) : Silent new := by
  cases h <;> exact fun _ => rfl

/-- No observer hears of anything between the start of the processing and its end. -/
theorem Processing.silent {p : Pipeline ω} {request : GenerationRequest} {model : Model}
    {new : List Exchange} {r : Except Failure Unit} {made : List Artifact}
    {output : Option JobOutput} (h : Processing p S request model new r made output) :
    Silent new := by
  cases h with
  | stopped hrendering => exact hrendering.silent
  | rendered hrendering hpacking => exact hrendering.silent.append hpacking.silent

/-! ## Output -/

/-- An output as organizer and packager have answered. -/
structure Delivered (made : List Artifact) (project archiveDir : String)
    (exchanges : List Exchange) (o : JobOutput) : Prop where
  folder : ∃ layout : Output.Organized,
    .organized made project (.ok layout) ∈ exchanges ∧ o.folder = layout.root
  archive : .archived o.folder archiveDir (.ok o.archive) ∈ exchanges
  size : .measured o.archive (.ok o.archiveSize) ∈ exchanges
  positive : 0 < o.archiveSize

theorem Delivered.mono {made : List Artifact} {project archiveDir : String}
    {exchanges more : List Exchange} {o : JobOutput} (h : Delivered made project archiveDir
    exchanges o) (hmore : exchanges ⊆ more) : Delivered made project archiveDir more o := by
  obtain ⟨⟨layout, horganized, hfolder⟩, harchive, hsize, hpositive⟩ := h
  exact ⟨⟨layout, hmore horganized, hfolder⟩, hmore harchive, hmore hsize, hpositive⟩

/-- A processing that fails leaves no output: setting it is its last effect. -/
theorem Processing.no_output {p : Pipeline ω} {request : GenerationRequest} {model : Model}
    {new : List Exchange} {cause : Failure} {made : List Artifact} {output : Option JobOutput}
    (h : Processing p S request model new (.error cause) made output) : output = none := by
  cases h with
  | stopped => rfl
  | rendered _ hpacking => cases hpacking <;> rfl

/-- A processing that succeeds leaves the output that the services have answered. -/
theorem Processing.delivered {p : Pipeline ω} {request : GenerationRequest} {model : Model}
    {new : List Exchange} {made : List Artifact} {output : Option JobOutput}
    (h : Processing p S request model new (.ok ()) made output) :
    ∃ o, output = some o ∧ Delivered made request.options.projectName p.archiveDir new o := by
  cases h with
  | @rendered rendering packing _ _ _ hrendering hpacking =>
      cases hpacking with
      | packed layout hvalid =>
          refine ⟨_, rfl, Delivered.mono ?_ (List.subset_append_right _ _)⟩
          exact ⟨⟨layout, by simp, rfl⟩, by simp, by simp, JobOutput.archiveSize_pos hvalid⟩

/-! ## The whole run -/

/-- A run that makes no job: its request is not valid, and nobody is told. -/
def Rejected (exchanges : List Exchange) (result : Except RunFailure Job) : Prop :=
  (∃ text, result = .error (.rejected (.validation text))) ∧ Silent exchanges

/-- The life of a job, as observers hear of it. -/
structure Life where
  created : Job
  started : Job
  ended : Job
  last : JobEvent

namespace Life

/-- The three notices of a life. -/
def notices (life : Life) (formId : Uuid) : List Notice :=
  [⟨life.created, .created life.created.id formId⟩,
   ⟨life.started, .processing life.created.id⟩,
   ⟨life.ended, life.last⟩]

/-- All notices are about one job, and each comes with the job in the status it announces. -/
def Coherent (life : Life) (formId : Uuid) : Prop :=
  ∀ notice ∈ life.notices formId, notice.event.jobId = life.created.id ∧
    notice.job.id = life.created.id ∧ notice.job.status = notice.event.announces

end Life

/-- The end of a run that completes its job. -/
def Completed (request : GenerationRequest) (archiveDir : String) (exchanges : List Exchange)
    (life : Life) (result : Except RunFailure Job) : Prop :=
  result = .ok life.ended ∧ life.ended.status = .completed ∧
  ∃ o, life.ended.output = some o ∧
    life.last = .completed life.created.id life.ended.artifactCount (some o.archive) ∧
    Delivered life.ended.artifacts request.options.projectName archiveDir exchanges o

/-- The end of a run that fails its job. -/
def Failed (life : Life) (result : Except RunFailure Job) : Prop :=
  ∃ cause, result = .error (.jobFailed life.ended cause) ∧
    life.last = .failed life.created.id cause.message ∧ life.ended.status = .failed ∧
    life.ended.state.error? = some cause.message ∧ life.ended.output = none

/-- Every observer hears of one life that ends as the run does. -/
def Observed (p : Pipeline ω) (request : GenerationRequest) (exchanges : List Exchange)
    (result : Except RunFailure Job) : Prop :=
  ∃ life : Life, life.Coherent request.formId ∧
    (∀ observer, noticesTo observer exchanges =
      if observer < p.observers.length then life.notices request.formId else []) ∧
    ((∃ job, result = .ok job) ↔ life.last.announces = .completed) ∧
    (Completed request p.archiveDir exchanges life result ∨ Failed life result)

/-- What an observer hears of a run with a job. -/
theorem noticesTo_run (observer count : Nat) (id : Uuid) (asked : JobRequest) (ended : Notice)
    {new : List Exchange} (hnew : Silent new) (done : Instant) :
    noticesTo observer (opening count id asked ++ (new ++ .clocked done :: tellings 0 count ended))
      = if observer < count then
          [⟨⟨id, asked, .pending, [], none⟩, .created id asked.formId⟩,
           ⟨startedJob id asked, .processing id⟩, ended]
        else [] := by
  have hopening : noticesTo observer [.named id, .clocked asked.requestedAt] = [] := rfl
  have hclocked : noticesTo observer (.clocked done :: tellings 0 count ended) =
      noticesTo observer (tellings 0 count ended) := rfl
  simp only [opening, noticesTo_append, hopening, hnew observer, hclocked, noticesTo_tellings]
  by_cases hobserver : observer < count <;> simp [hobserver]

/-- A transcript of a run that makes no job is that of a rejection, and of any other run every
observer hears one life. -/
theorem Transcript.lifecycle {p : Pipeline ω} {request : GenerationRequest}
    {exchanges : List Exchange} {result : Except RunFailure Job}
    (h : Transcript p S request exchanges result) :
    Rejected exchanges result ∨ Observed p request exchanges result := by
  cases h with
  | formRejected hform =>
      obtain ⟨text, rfl⟩ := GenerationRequest.validateForm_error hform
      exact Or.inl ⟨⟨text, rfl⟩, fun _ => rfl⟩
  | rejected _ id hvalid =>
      obtain ⟨text, rfl⟩ := JobRequest.validate_error hvalid
      exact Or.inl ⟨⟨text, rfl⟩, fun _ => rfl⟩
  | @completed now new made output _ _ hprocessing id done =>
      -- A processing that succeeded has set an output, which the last notice names.
      obtain ⟨o, rfl, hdelivered⟩ := hprocessing.delivered
      refine Or.inr ⟨⟨⟨id, request.toJobRequest now, .pending, [], none⟩,
        startedJob id (request.toJobRequest now),
        ⟨id, request.toJobRequest now, .completed done, made, some o⟩,
        .completed id made.length (some o.archive)⟩, ?_, ?_, ?_, Or.inl ?_⟩
      · simp [Life.Coherent, Life.notices, JobEvent.jobId, JobEvent.announces, startedJob,
          Job.status, JobState.status]
      · intro observer
        exact noticesTo_run observer _ id _ _ hprocessing.silent done
      · simp [JobEvent.announces]
      · refine ⟨rfl, rfl, o, rfl, rfl, hdelivered.mono ?_⟩
        intro e he
        simp [he]
  | @failed now new made output cause _ _ hprocessing id done =>
      -- A processing that failed has not set one.
      have hnone := hprocessing.no_output
      subst hnone
      refine Or.inr ⟨⟨⟨id, request.toJobRequest now, .pending, [], none⟩,
        startedJob id (request.toJobRequest now),
        ⟨id, request.toJobRequest now, .failed done cause.message, made, none⟩,
        .failed id cause.message⟩, ?_, ?_, ?_, Or.inr ⟨cause, rfl, rfl, rfl, rfl, rfl⟩⟩
      · simp [Life.Coherent, Life.notices, JobEvent.jobId, JobEvent.announces, startedJob,
          Job.status, JobState.status]
      · intro observer
        exact noticesTo_run observer _ id _ _ hprocessing.silent done
      · simp [JobEvent.announces]

/-- Whatever its services answer, a run leaves the job in processing, where it can be ended
either way. -/
theorem process_leaves_processing (p : Pipeline ω) (request : GenerationRequest) (id : Uuid)
    (asked : JobRequest) (w : ω) :
    (p.process request (startedJob id asked) w).1.2.state = .processing := by
  obtain ⟨r, made, output, new, world, hprocess, -⟩ :=
    process_recorded p.preserves_all request id asked (w := ⟨w, []⟩) trivial
  have herased := (process_erases p request (startedJob id asked) ⟨w, []⟩).1
  rw [hprocess] at herased
  rw [← herased]

/-- No branch in which a move of the job itself fails is reached: a new job can be started,
and after its processing it can be both completed and failed. -/
def MovesSucceed (p : Pipeline ω) (request : GenerationRequest) : Prop :=
  ∀ id asked created event, Job.create id asked = .ok (created, event) →
    ∃ started event', created.startProcessing = .ok (started, event') ∧
      ∀ w now text, (∃ move, (p.process request started w).1.2.complete now = .ok move) ∧
        ∃ move, (p.process request started w).1.2.fail now text = .ok move

theorem moves_succeed (p : Pipeline ω) (request : GenerationRequest) : p.MovesSucceed request := by
  intro id asked created event hcreate
  unfold Job.create at hcreate
  split at hcreate
  · cases hcreate
  · cases hcreate
    refine ⟨startedJob id asked, .processing id, rfl, fun w now text => ?_⟩
    have hstate := process_leaves_processing p request id asked w
    simp [Job.complete, Job.fail, Job.whileProcessing, hstate]

/-- For every request, every generator and every world, the recorded run is the run, it
either rejects the request without a notice or lets every observer hear of exactly one life
that ends as the run does, and no move of the job fails in it. -/
theorem generate_lifecycle (p : Pipeline ω) (request : GenerationRequest) (w : ω) :
    (p.recorded.generate request ⟨w, []⟩).1 = (p.generate request w).1 ∧
    (p.recorded.generate request ⟨w, []⟩).2.world = (p.generate request w).2 ∧
    (Rejected (p.recorded.generate request ⟨w, []⟩).2.exchanges (p.generate request w).1 ∨
      Observed p request (p.recorded.generate request ⟨w, []⟩).2.exchanges
        (p.generate request w).1) ∧
    p.MovesSucceed request := by
  obtain ⟨hresult, hworld, htranscript⟩ := recorded_run p.preserves_all request trivial
  exact ⟨hresult, hworld, htranscript.lifecycle, moves_succeed p request⟩

end Pipeline

end FormScaffold
