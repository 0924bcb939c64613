import FormScaffold.Proofs.Pipeline.Recording

/-!
# Transcripts of runs

The recording of a run follows a grammar.  A lookup decides whether an optional template is
left out, a rendering goes through the templates of the enabled families and may stop at any
of them, and a processing lays out and packs what was made.  `generate_transcript` states
that every run of every generator follows the grammar, so a property of all runs is proved
by going through the cases of `Transcript`.  Up to the layout every answer is given in one of the
worlds that the run does not leave before.
-/

namespace FormScaffold

open Calendar

/-- A job with further artifacts. -/
def Job.withArtifacts (j : Job) (made : List Artifact) : Job :=
  { j with artifacts := j.artifacts ++ made }

@[simp] theorem Job.withArtifacts_nil (j : Job) : j.withArtifacts [] = j := by
  simp [Job.withArtifacts]

@[simp] theorem Job.withArtifacts_withArtifacts (j : Job) (made more : List Artifact) :
    (j.withArtifacts made).withArtifacts more = j.withArtifacts (made ++ more) := by
  simp [Job.withArtifacts]

@[simp] theorem Job.withArtifacts_state (j : Job) (made : List Artifact) :
    (j.withArtifacts made).state = j.state := rfl

/-- A job in processing gets every artifact it is given. -/
theorem Job.addArtifact_processing {j : Job} (h : j.state = .processing) (a : Artifact) :
    j.addArtifact a = .ok (j.withArtifacts [a]) := by
  simp [Job.addArtifact, Job.whileProcessing, h, Job.withArtifacts]

/-- What became of setting the output of a job in processing depends on the output alone. -/
theorem Job.setOutput_processing {j : Job} (h : j.state = .processing) (o : JobOutput) :
    j.setOutput o = (JobOutput.validate o).map fun _ => { j with output := some o } := by
  simp only [Job.setOutput, Job.whileProcessing, h]
  cases JobOutput.validate o <;> rfl

namespace Pipeline

variable {ω : Type}

/-- Nothing that a run does before it lays out its artifacts leads out of some worlds. -/
structure Preserves (p : Pipeline ω) (S : ω → Prop) : Prop where
  render : ∀ {name entry}, p.registry.get name = .ok entry →
    ∀ model w, S w → S (p.services.render entry model w).2
  holdsFile : ∀ path w, S w → S (p.services.holdsFile path w).2
  isCancelled : ∀ w, S w → S (p.services.isCancelled w).2
  now : ∀ w, S w → S (p.services.now w).2
  freshId : ∀ w, S w → S (p.services.freshId w).2
  observed : ∀ observe ∈ p.observers, ∀ job event w, S w → S (observe job event w).2

/-- No run leads out of all worlds. -/
theorem preserves_all (p : Pipeline ω) : p.Preserves fun _ => True where
  render _ _ _ _ := trivial
  holdsFile _ _ _ := trivial
  isCancelled _ _ := trivial
  now _ _ := trivial
  freshId _ _ := trivial
  observed _ _ _ _ _ _ := trivial

/-- Some world would have a run cancelled. -/
def CanBeCancelled (p : Pipeline ω) : Prop := ∃ w, (p.services.isCancelled w).1 = true

/-- Whether a template takes part, with the exchange that decides it if there is one. -/
inductive Lookup (p : Pipeline ω) (S : ω → Prop) (t : FamilyTemplate) :
    List Exchange → Bool → Prop
  | needed (h : t.isOptional = false) : Lookup p S t [] true
  | unregistered (h : t.isOptional = true)
      (hname : Keyed.get? t.name p.registry.templates = none) : Lookup p S t [] false
  | looked {entry : TemplateEntry} (h : t.isOptional = true)
      (hname : Keyed.get? t.name p.registry.templates = some entry) {w : ω} (hw : S w)
      {there : Bool} (hthere : (p.services.holdsFile (p.registry.sourceOf entry) w).1 = there) :
      Lookup p S t [.sought (p.registry.sourceOf entry) there] there

/-- The rendering of one template: its exchanges, and the artifact or why there is none. -/
inductive Making (p : Pipeline ω) (S : ω → Prop) (model : Model) (name : String) :
    List Exchange → Except Failure Artifact → Prop
  | unknown {e : Failure} (h : p.registry.get name = .error e) :
      Making p S model name [] (.error e)
  | failed {entry : TemplateEntry} (h : p.registry.get name = .ok entry) {w : ω} (hw : S w)
      {e : Failure} (hrender : (p.services.render entry model w).1 = .error e) :
      Making p S model name [.rendered entry model (.error e)] (.error e)
  | ended {entry : TemplateEntry} (h : p.registry.get name = .ok entry) {w : ω} (hw : S w)
      {content : String} (hrender : (p.services.render entry model w).1 = .ok content)
      (now : Instant) :
      Making p S model name [.rendered entry model (.ok content), .clocked now]
        (Artifact.create entry.kind (entry.outputFileName model.entityName) content now)

/-- The rendering of templates in turn: its exchanges, its result and what it made. -/
inductive Rendering (p : Pipeline ω) (S : ω → Prop) (model : Model) :
    List FamilyTemplate → List Exchange → Except Failure Unit → List Artifact → Prop
  | done : Rendering p S model [] [] (.ok ()) []
  | cancelled (t : FamilyTemplate) (ts : List FamilyTemplate) (h : p.CanBeCancelled) :
      Rendering p S model (t :: ts) [.checked true] (.error .cancelled) []
  | skipped {t : FamilyTemplate} {ts : List FamilyTemplate} {looked new : List Exchange}
      {r : Except Failure Unit} {made : List Artifact} (hlook : Lookup p S t looked false)
      (hrest : Rendering p S model ts new r made) :
      Rendering p S model (t :: ts) (.checked false :: (looked ++ new)) r made
  | stopped {t : FamilyTemplate} {looked own : List Exchange} {e : Failure}
      (ts : List FamilyTemplate) (hlook : Lookup p S t looked true)
      (hown : Making p S model t.name own (.error e)) :
      Rendering p S model (t :: ts) (.checked false :: (looked ++ own)) (.error e) []
  | made {t : FamilyTemplate} {ts : List FamilyTemplate} {looked own new : List Exchange}
      {a : Artifact} {r : Except Failure Unit} {made : List Artifact}
      (hlook : Lookup p S t looked true) (hown : Making p S model t.name own (.ok a))
      (hrest : Rendering p S model ts new r made) :
      Rendering p S model (t :: ts) (.checked false :: (looked ++ (own ++ new))) r (a :: made)

/-- The rendering of families in turn. -/
inductive FamilyRendering (p : Pipeline ω) (S : ω → Prop) (model : Model) :
    List Family → List Exchange → Except Failure Unit → List Artifact → Prop
  | done : FamilyRendering p S model [] [] (.ok ()) []
  | cancelled (family : Family) (rest : List Family) (h : p.CanBeCancelled) :
      FamilyRendering p S model (family :: rest) [.checked true] (.error .cancelled) []
  | stopped {family : Family} {new : List Exchange} {e : Failure} {made : List Artifact}
      (rest : List Family) (hown : Rendering p S model family.templates new (.error e) made) :
      FamilyRendering p S model (family :: rest) (.checked false :: new) (.error e) made
  | next {family : Family} {rest : List Family} {new more : List Exchange}
      {r : Except Failure Unit} {made others : List Artifact}
      (hown : Rendering p S model family.templates new (.ok ()) made)
      (hrest : FamilyRendering p S model rest more r others) :
      FamilyRendering p S model (family :: rest) (.checked false :: (new ++ more)) r
        (made ++ others)

/-- What follows the rendering: exchanges, result, and the output recorded on the job. -/
inductive Packing (p : Pipeline ω) (made : List Artifact) (project : String) :
    List Exchange → Except Failure Unit → Option JobOutput → Prop
  | cancelledFirst (h : p.CanBeCancelled) :
      Packing p made project [.checked true] (.error .cancelled) none
  | layoutFailed (e : Failure) :
      Packing p made project [.checked false, .organized made project (.error e)]
        (.error e) none
  | cancelledThen (o : Output.Organized) (h : p.CanBeCancelled) :
      Packing p made project
        [.checked false, .organized made project (.ok o), .checked true] (.error .cancelled) none
  | archiveFailed (o : Output.Organized) (e : Failure) :
      Packing p made project
        [.checked false, .organized made project (.ok o), .checked false,
          .archived o.root p.archiveDir (.error e)] (.error e) none
  | sizeFailed (o : Output.Organized) (archive : String) (e : Failure) :
      Packing p made project
        [.checked false, .organized made project (.ok o), .checked false,
          .archived o.root p.archiveDir (.ok archive), .measured archive (.error e)] (.error e) none
  | outputRefused (o : Output.Organized) {archive : String} {size : Nat} {e : Failure}
      (h : JobOutput.validate ⟨o.root, archive, size⟩ = .error e) :
      Packing p made project
        [.checked false, .organized made project (.ok o), .checked false,
          .archived o.root p.archiveDir (.ok archive), .measured archive (.ok size)] (.error e) none
  | packed (o : Output.Organized) {archive : String} {size : Nat}
      (h : JobOutput.validate ⟨o.root, archive, size⟩ = .ok ()) :
      Packing p made project
        [.checked false, .organized made project (.ok o), .checked false,
          .archived o.root p.archiveDir (.ok archive), .measured archive (.ok size)] (.ok ())
        (some ⟨o.root, archive, size⟩)

/-- The processing of a job: exchanges, result, and the artifacts and output it leaves. -/
inductive Processing (p : Pipeline ω) (S : ω → Prop) (request : GenerationRequest) (model : Model) :
    List Exchange → Except Failure Unit → List Artifact → Option JobOutput → Prop
  | stopped {new : List Exchange} {e : Failure} {made : List Artifact}
      (h : FamilyRendering p S model (Family.enabled request.options) new (.error e) made) :
      Processing p S request model new (.error e) made none
  | rendered {new more : List Exchange} {r : Except Failure Unit} {made : List Artifact}
      {output : Option JobOutput}
      (h : FamilyRendering p S model (Family.enabled request.options) new (.ok ()) made)
      (hmore : Packing p made request.options.projectName more r output) :
      Processing p S request model (new ++ more) r made output

/-- One notice to each of `count` observers, numbered from `first` on. -/
def tellings (first count : Nat) (notice : Notice) : List Exchange :=
  (List.range' first count).map fun i => .told i notice

/-- The job of a request as it is when its processing starts. -/
def startedJob (id : Uuid) (request : JobRequest) : Job := ⟨id, request, .processing, [], none⟩

/-- The exchanges of a run up to its processing. -/
def opening (observers : Nat) (id : Uuid) (request : JobRequest) : List Exchange :=
  [.named id, .clocked request.requestedAt]
    ++ (tellings 0 observers ⟨⟨id, request, .pending, [], none⟩, .created id request.formId⟩
      ++ tellings 0 observers ⟨startedJob id request, .processing id⟩)

/-- A run: its exchanges and its result. -/
inductive Transcript (p : Pipeline ω) (S : ω → Prop) (request : GenerationRequest) :
    List Exchange → Except RunFailure Job → Prop
  | formRejected {f : Failure} (h : request.validateForm = .error f) :
      Transcript p S request [] (.error (.rejected f))
  | rejected {f : Failure} (hform : request.validateForm = .ok ()) (id : Uuid) {now : Instant}
      (h : (request.toJobRequest now).validate = .error f) :
      Transcript p S request [.named id, .clocked now] (.error (.rejected f))
  | completed {now : Instant} {new : List Exchange} {made : List Artifact}
      {output : Option JobOutput} (hform : request.validateForm = .ok ())
      (hrequest : (request.toJobRequest now).validate = .ok ())
      (h : Processing p S request
        (Model.build request.form request.options now) new (.ok ()) made output)
      (id : Uuid) (done : Instant) :
      Transcript p S request
        (opening p.observers.length id (request.toJobRequest now)
          ++ (new ++ .clocked done :: tellings 0 p.observers.length
            ⟨⟨id, request.toJobRequest now, .completed done, made, output⟩,
              .completed id made.length (output.map JobOutput.archive)⟩))
        (.ok ⟨id, request.toJobRequest now, .completed done, made, output⟩)
  | failed {now : Instant} {new : List Exchange} {made : List Artifact}
      {output : Option JobOutput} {cause : Failure} (hform : request.validateForm = .ok ())
      (hrequest : (request.toJobRequest now).validate = .ok ())
      (h : Processing p S request
        (Model.build request.form request.options now) new (.error cause) made output)
      (id : Uuid) (done : Instant) :
      Transcript p S request
        (opening p.observers.length id (request.toJobRequest now)
          ++ (new ++ .clocked done :: tellings 0 p.observers.length
            ⟨⟨id, request.toJobRequest now, .failed done cause.message, made, output⟩,
              .failed id cause.message⟩))
        (.error (.jobFailed
          ⟨id, request.toJobRequest now, .failed done cause.message, made, output⟩ cause))

/-! ## Every run follows the grammar -/

/-- The turn of one template in a rendering: its exchanges, and what it made unless it was left
out, or why the rendering stops at it. -/
inductive Turn (p : Pipeline ω) (S : ω → Prop) (model : Model) (t : FamilyTemplate) :
    List Exchange → Except Failure (Option Artifact) → Prop
  | cancelled (h : p.CanBeCancelled) : Turn p S model t [.checked true] (.error .cancelled)
  | skipped {looked : List Exchange} (hlook : Lookup p S t looked false) :
      Turn p S model t (.checked false :: looked) (.ok none)
  | taken {looked own : List Exchange} {r : Except Failure Artifact}
      (hlook : Lookup p S t looked true) (hown : Making p S model t.name own r) :
      Turn p S model t (.checked false :: (looked ++ own)) (r.map some)

section Turns

variable {p : Pipeline ω} {S : ω → Prop} {model : Model} {t : FamilyTemplate}

theorem Turn.stops {new : List Exchange} {e : Failure} (h : Turn p S model t new (.error e))
    (ts : List FamilyTemplate) : Rendering p S model (t :: ts) new (.error e) [] := by
  generalize hr : (Except.error e : Except Failure (Option Artifact)) = result at h
  cases h with
  | cancelled hcancels =>
      cases hr
      exact .cancelled t ts hcancels
  | skipped => cases hr
  | @taken _ _ r hlook hown =>
      cases r with
      | ok a => cases hr
      | error e' =>
          cases hr
          exact .stopped ts hlook hown

theorem Turn.goesOn {own new : List Exchange} {one : Option Artifact} {ts : List FamilyTemplate}
    {r : Except Failure Unit} {made : List Artifact} (h : Turn p S model t own (.ok one))
    (hrest : Rendering p S model ts new r made) :
    Rendering p S model (t :: ts) (own ++ new) r (one.toList ++ made) := by
  generalize hr : (Except.ok one : Except Failure (Option Artifact)) = result at h
  cases h with
  | cancelled => cases hr
  | skipped hlook =>
      cases hr
      exact .skipped hlook hrest
  | @taken looked own r hlook hown =>
      cases r with
      | error e => cases hr
      | ok a =>
          cases hr
          rw [List.cons_append, List.append_assoc]
          exact .made hlook hown hrest

end Turns

/-- What a service answers is written down with the question. -/
theorem attempt_exchange {α : Type} (note : Except Failure α → Exchange) (a : Attempt ω α)
    (job : Job) (w : Recorded ω) : ∃ answer world,
      Step.attempt (Recorded.exchange note a) job w =
        ((answer, job), ⟨world, w.exchanges ++ [note answer]⟩) :=
  ⟨(a w.world).1, (a w.world).2, rfl⟩

section Grammar

variable {p : Pipeline ω} {S : ω → Prop} (hkept : p.Preserves S)
include hkept

theorem ensureRunning_recorded (job : Job) {t : Recorded ω} (ht : S t.world) :
    ∃ world, S world ∧
      (p.recorded.ensureRunning job t =
          ((.ok (), job), ⟨world, t.exchanges ++ [.checked false]⟩) ∨
        p.CanBeCancelled ∧ p.recorded.ensureRunning job t =
          ((.error .cancelled, job), ⟨world, t.exchanges ++ [.checked true]⟩)) := by
  have hask : Step.ask p.recorded.services.isCancelled job t =
      ((.ok (p.services.isCancelled t.world).1, job),
        ⟨(p.services.isCancelled t.world).2,
          t.exchanges ++ [.checked (p.services.isCancelled t.world).1]⟩) := rfl
  refine ⟨(p.services.isCancelled t.world).2, hkept.isCancelled _ ht, ?_⟩
  unfold ensureRunning
  rw [Step.bind_ok hask]
  cases hfound : (p.services.isCancelled t.world).1 with
  | false => exact Or.inl rfl
  | true => exact Or.inr ⟨⟨t.world, hfound⟩, rfl⟩

theorem isAvailable_recorded {t : FamilyTemplate} (h : t.isOptional = true)
    (job : Job) {w : Recorded ω} (hw : S w.world) : ∃ there looked world, S world ∧
      Step.ask (p.recorded.isAvailable t.name) job w =
        ((.ok there, job), ⟨world, w.exchanges ++ looked⟩) ∧
      Lookup p S t looked there := by
  -- Without an entry there is no file to ask for.
  cases hname : Keyed.get? t.name p.registry.templates with
  | none =>
      refine ⟨false, [], w.world, hw, ?_, .unregistered h hname⟩
      simp only [Step.ask, isAvailable, recorded, hname, List.append_nil]
      rfl
  | some entry =>
      refine ⟨(p.services.holdsFile (p.registry.sourceOf entry) w.world).1, _,
        (p.services.holdsFile (p.registry.sourceOf entry) w.world).2,
        hkept.holdsFile _ _ hw, ?_, .looked h hname hw rfl⟩
      simp only [Step.ask, isAvailable, recorded, hname]
      rfl

theorem renderEntry_recorded (model : Model) (name : String) {job : Job}
    (hjob : job.state = .processing) {w : Recorded ω} (hw : S w.world) : ∃ r own world, S world ∧
      p.recorded.renderEntry model name job w =
        ((r.map fun _ => (), job.withArtifacts r.toOption.toList),
          ⟨world, w.exchanges ++ own⟩) ∧
      Making p S model name own r := by
  unfold renderEntry
  cases hget : p.registry.get name with
  | error e =>
      have hentry : Step.ofExcept (ω := Recorded ω) (p.recorded.registry.get name) job w =
          ((.error e, job), w) := by
        simp only [Step.ofExcept, recorded, hget]
      refine ⟨.error e, [], w.world, hw, ?_, .unknown hget⟩
      rw [Step.bind_error hentry]
      simp [Except.toOption, Except.map]
  | ok entry =>
      have hentry : Step.ofExcept (ω := Recorded ω) (p.recorded.registry.get name) job w =
          ((.ok entry, job), w) := by
        simp only [Step.ofExcept, recorded, hget]
      rw [Step.bind_ok hentry]
      rcases hrender : p.services.render entry model w.world with ⟨content, w₁⟩
      have hw₁ : S w₁ := by
        have hafter := hkept.render hget model _ hw
        rwa [hrender] at hafter
      have hcontent : Step.attempt (p.recorded.services.render entry model) job w =
          ((content, job), ⟨w₁, w.exchanges ++ [.rendered entry model content]⟩) := by
        simp only [Step.attempt, recorded, Services.recorded, Recorded.exchange, ExceptT.run,
          hrender]
      cases content with
      | error e =>
          refine ⟨.error e, _, w₁, hw₁, ?_, .failed hget hw (congrArg Prod.fst hrender)⟩
          rw [Step.bind_error hcontent]
          simp [Except.toOption, Except.map]
      | ok content =>
          rw [Step.bind_ok hcontent]
          rcases hclock : p.services.now w₁ with ⟨now, w₂⟩
          have hw₂ : S w₂ := by
            have hafter := hkept.now _ hw₁
            rwa [hclock] at hafter
          refine ⟨_, _, w₂, hw₂, ?_, .ended hget hw (congrArg Prod.fst hrender) now⟩
          have hnow : Step.ask p.recorded.services.now job
              ⟨w₁, w.exchanges ++ [.rendered entry model (.ok content)]⟩ =
              ((.ok now, job),
                ⟨w₂, w.exchanges ++ [.rendered entry model (.ok content), .clocked now]⟩) := by
            simp [Step.ask, recorded, Services.recorded, Recorded.exchange, hclock]
          rw [Step.bind_ok hnow]
          -- The artifact gets the time that was read, and its path may still be refused.
          cases hmade : Artifact.create entry.kind (entry.outputFileName model.entityName)
              content now with
          | error e =>
              rw [Step.bind_error (e := e) (j := job) rfl]
              simp [Except.toOption, Except.map]
          | ok a =>
              rw [Step.bind_ok (a := a) (j := job) rfl]
              simp [Step.update, Job.addArtifact_processing hjob, Except.toOption, Except.map]

theorem renderTemplate_recorded (model : Model) (t : FamilyTemplate) {job : Job}
    (hjob : job.state = .processing) {w : Recorded ω} (hw : S w.world) : ∃ r own world, S world ∧
      p.recorded.renderTemplate model t job w =
        ((r.map fun _ => (), job.withArtifacts (r.toOption.elim [] Option.toList)),
          ⟨world, w.exchanges ++ own⟩) ∧
      Turn p S model t own r := by
  -- The rendering of a template that takes part, whatever decided that it does.
  have hmake : ∀ (looked : List Exchange) (w₂ : ω), S w₂ → Lookup p S t looked true →
      ∃ r own world, S world ∧
      p.recorded.renderEntry model t.name job ⟨w₂, w.exchanges ++ .checked false :: looked⟩ =
        ((r.map fun _ => (), job.withArtifacts (r.toOption.elim [] Option.toList)),
          ⟨world, w.exchanges ++ own⟩) ∧
      Turn p S model t own r := by
    intro looked w₂ hw₂ hlook
    obtain ⟨r, own, w₃, hw₃, hown, hmaking⟩ := renderEntry_recorded hkept model t.name hjob
      (w := ⟨w₂, w.exchanges ++ .checked false :: looked⟩) hw₂
    refine ⟨r.map some, _, w₃, hw₃, hown.trans ?_, .taken hlook hmaking⟩
    cases r <;> simp [Except.map, Except.toOption]
  unfold renderTemplate
  obtain ⟨w₁, hw₁, hrunning | ⟨hcancels, hcancelled⟩⟩ := ensureRunning_recorded hkept job hw
  · rw [Step.bind_ok hrunning]
    -- A template that is not optional takes part without a lookup.
    cases hopt : t.isOptional with
    | false => exact hmake [] w₁ hw₁ (.needed hopt)
    | true =>
        obtain ⟨there, looked, w₂, hw₂, hask, hlook⟩ := isAvailable_recorded hkept hopt job
          (w := ⟨w₁, w.exchanges ++ [.checked false]⟩) hw₁
        simp only [if_true]
        rw [Step.bind_ok hask, List.append_assoc]
        cases there with
        | false =>
            refine ⟨.ok none, _, w₂, hw₂, ?_, .skipped hlook⟩
            simp [Except.map, Except.toOption]
            rfl
        | true => exact hmake looked w₂ hw₂ hlook
  · refine ⟨.error .cancelled, _, w₁, hw₁, ?_, .cancelled hcancels⟩
    rw [Step.bind_error hcancelled]
    simp [Except.map, Except.toOption]

/-- A run of templates either follows the grammar to its end or stops as the grammar allows.
The induction is on the templates that are left; the job stays in processing, so that every
artifact that is made is kept. -/
theorem renderTemplates_recorded (model : Model) (ts : List FamilyTemplate) (job : Job)
    (hjob : job.state = .processing) {w : Recorded ω} (hw : S w.world) :
    ∃ r made new world, S world ∧
      p.recorded.renderTemplates model ts job w =
        ((r, job.withArtifacts made), ⟨world, w.exchanges ++ new⟩) ∧
      Rendering p S model ts new r made := by
  induction ts generalizing job w with
  | nil => exact ⟨.ok (), [], [], w.world, hw, by simp [renderTemplates]; rfl, .done⟩
  | cons t rest ih =>
      simp only [renderTemplates]
      obtain ⟨own, exchanged, w₁, hw₁, hown, hturn⟩ :=
        renderTemplate_recorded hkept model t hjob hw
      cases own with
      | error e =>
          refine ⟨.error e, [], _, w₁, hw₁, ?_, hturn.stops rest⟩
          rw [Step.bind_error hown]
          simp [Except.toOption]
      | ok one =>
          rw [Step.bind_ok hown]
          obtain ⟨r, made, new, w₂, hw₂, hrest, hrendering⟩ :=
            ih (job.withArtifacts one.toList) hjob (w := ⟨w₁, w.exchanges ++ exchanged⟩) hw₁
          refine ⟨r, one.toList ++ made, _, w₂, hw₂, ?_, hturn.goesOn hrendering⟩
          exact hrest.trans (by simp)

theorem renderFamilies_recorded (model : Model) (families : List Family) (job : Job)
    (hjob : job.state = .processing) {w : Recorded ω} (hw : S w.world) : ∃ r made new world,
      p.recorded.renderFamilies model families job w =
        ((r, job.withArtifacts made), ⟨world, w.exchanges ++ new⟩) ∧
      FamilyRendering p S model families new r made := by
  induction families generalizing job w with
  | nil => exact ⟨.ok (), [], [], w.world, by simp [renderFamilies]; rfl, .done⟩
  | cons family rest ih =>
      simp only [renderFamilies]
      obtain ⟨w₁, hw₁, hrunning | ⟨hcancels, hcancelled⟩⟩ := ensureRunning_recorded hkept job hw
      · rw [Step.bind_ok hrunning]
        obtain ⟨r, made, new, w₂, hw₂, hown, hrendering⟩ :=
          renderTemplates_recorded hkept model family.templates job hjob
            (w := ⟨w₁, w.exchanges ++ [.checked false]⟩) hw₁
        cases r with
        | error e =>
            refine ⟨.error e, made, _, w₂, ?_, .stopped rest hrendering⟩
            rw [Step.bind_error hown]
            simp
        | ok u =>
            rw [Step.bind_ok hown]
            -- The other families go on with the artifacts of this one on the job.
            obtain ⟨r, others, more, w₃, hrest, hmore⟩ :=
              ih (job.withArtifacts made) hjob
                (w := ⟨w₂, (w.exchanges ++ [.checked false]) ++ new⟩) hw₂
            refine ⟨r, made ++ others, _, w₃, ?_, .next hrendering hmore⟩
            exact hrest.trans (by simp)
      · refine ⟨.error .cancelled, [], _, w₁, ?_, .cancelled family rest hcancels⟩
        rw [Step.bind_error hcancelled]
        simp

omit hkept in
/-- Packing what was laid out follows the grammar, and the output is set as the last effect. -/
theorem packOutput_recorded (made : List Artifact) (project : String)
    (o : Output.Organized) {job : Job} (hjob : job.state = .processing) (hout : job.output = none)
    (w : Recorded ω) : ∃ r output new world,
      p.recorded.packOutput o.root job w =
        ((r, { job with output := output }), ⟨world, w.exchanges ++ new⟩) ∧
      Packing p made project (.checked false :: .organized made project (.ok o) :: new) r
        output := by
  -- Every end before the last one leaves the job without an output.
  have hsame : { job with output := none } = job := by rw [← hout]
  unfold packOutput
  obtain ⟨w₁, -, hrunning | ⟨hcancels, hcancelled⟩⟩ :=
    ensureRunning_recorded p.preserves_all job (t := w) trivial
  · rw [Step.bind_ok hrunning]
    obtain ⟨packed, w₂, harchive⟩ := attempt_exchange
      (fun answer => .archived o.root p.archiveDir answer)
      (p.services.createArchive o.root p.archiveDir) job ⟨w₁, w.exchanges ++ [.checked false]⟩
    change Step.attempt
      (p.recorded.services.createArchive o.root p.recorded.archiveDir) _ _ = _ at harchive
    cases packed with
    | error e =>
        refine ⟨.error e, none, _, w₂, ?_, .archiveFailed o e⟩
        rw [Step.bind_error harchive]
        simp [hsame]
    | ok archive =>
        rw [Step.bind_ok harchive]
        obtain ⟨measured, w₃, hsize⟩ := attempt_exchange
          (fun answer => .measured archive answer) (p.services.archiveSize archive) job
          ⟨w₂, (w.exchanges ++ [.checked false]) ++ [.archived o.root p.archiveDir (.ok archive)]⟩
        change Step.attempt (p.recorded.services.archiveSize archive) _ _ = _ at hsize
        cases measured with
        | error e =>
            refine ⟨.error e, none, _, w₃, ?_, .sizeFailed o archive e⟩
            rw [Step.bind_error hsize]
            simp [hsame]
        | ok size =>
            rw [Step.bind_ok hsize]
            -- All services have answered; what they answered may still be no valid output.
            cases hvalid : JobOutput.validate ⟨o.root, archive, size⟩ with
            | error e =>
                refine ⟨.error e, none, _, w₃, ?_, .outputRefused o hvalid⟩
                simp [Step.update, Job.setOutput_processing hjob, hvalid, Except.map, hsame]
            | ok u =>
                refine ⟨.ok (), some ⟨o.root, archive, size⟩, _, w₃, ?_, .packed o hvalid⟩
                simp [Step.update, Job.setOutput_processing hjob, hvalid, Except.map]
  · refine ⟨.error .cancelled, none, _, w₁, ?_, .cancelledThen o hcancels⟩
    rw [Step.bind_error hcancelled, hsame]

omit hkept in
/-- Laying out and packing follow the grammar. -/
theorem packing_recorded (project : String) (job : Job)
    (hjob : job.state = .processing) (hout : job.output = none) (w : Recorded ω) :
    ∃ r output new world,
      (p.recorded.organizeOutput project >>= fun organized =>
          p.recorded.packOutput organized.root) job w =
        ((r, { job with output := output }), ⟨world, w.exchanges ++ new⟩) ∧
      Packing p job.artifacts project new r output := by
  have hsame : { job with output := none } = job := by rw [← hout]
  unfold organizeOutput
  rw [Step.bind_apply]
  obtain ⟨w₁, -, hrunning | ⟨hcancels, hcancelled⟩⟩ :=
    ensureRunning_recorded p.preserves_all job (t := w) trivial
  · rw [Step.bind_ok hrunning, Step.bind_ok (a := job) (j := job) rfl]
    obtain ⟨layout, w₂, horganize⟩ := attempt_exchange
      (fun answer => .organized job.artifacts project answer)
      (p.services.organize job.artifacts project) job ⟨w₁, w.exchanges ++ [.checked false]⟩
    change Step.attempt (p.recorded.services.organize job.artifacts project) _ _ = _ at horganize
    rw [horganize]
    cases layout with
    | error e =>
        refine ⟨.error e, none, _, w₂, ?_, .layoutFailed e⟩
        simp [hsame]
    | ok o =>
        obtain ⟨r, output, new, w₃, hpack, hpacking⟩ :=
          packOutput_recorded job.artifacts project o hjob hout
            ⟨w₂, (w.exchanges ++ [.checked false]) ++ [.organized job.artifacts project (.ok o)]⟩
        exact ⟨r, output, _, w₃, hpack.trans (by simp), hpacking⟩
  · refine ⟨.error .cancelled, none, _, w₁, ?_, .cancelledFirst hcancels⟩
    rw [Step.bind_error hcancelled]
    simp [hsame]

/-- The processing of a new job follows the grammar; the job leaves it in processing. -/
theorem process_recorded (request : GenerationRequest) (id : Uuid) (asked : JobRequest)
    {w : Recorded ω} (hw : S w.world) : ∃ r made output new world,
      p.recorded.process request (startedJob id asked) w =
        ((r, ⟨id, asked, .processing, made, output⟩), ⟨world, w.exchanges ++ new⟩) ∧
      Processing p S request
        (Model.build request.form request.options asked.requestedAt) new r made output := by
  unfold process
  rw [Step.bind_ok (a := startedJob id asked) (j := startedJob id asked) rfl]
  obtain ⟨r, made, new, w₁, hfamilies, hrendering⟩ := renderFamilies_recorded hkept
    (Model.build request.form request.options asked.requestedAt)
    (Family.enabled request.options) (startedJob id asked) rfl hw
  change p.recorded.renderFamilies (Model.build request.form request.options
    (startedJob id asked).request.requestedAt) _ _ _ = _ at hfamilies
  cases r with
  | error e =>
      refine ⟨.error e, made, none, new, w₁, ?_, .stopped hrendering⟩
      rw [Step.bind_error hfamilies]
      rfl
  | ok u =>
      rw [Step.bind_ok hfamilies]
      obtain ⟨r, output, more, w₂, hpack, hpacking⟩ := packing_recorded
        request.options.projectName ((startedJob id asked).withArtifacts made) rfl rfl
        ⟨w₁, w.exchanges ++ new⟩
      refine ⟨r, made, output, new ++ more, w₂, ?_, .rendered hrendering hpacking⟩
      exact hpack.trans (by simp [startedJob, Job.withArtifacts])

/-- Every observer is told once, in the order of the observers. -/
theorem notify_recorded (job : Job) (event : JobEvent) {w : Recorded ω} (hw : S w.world) :
    ∃ world, S world ∧ p.recorded.notify job event w =
      ((), ⟨world, w.exchanges ++ tellings 0 p.observers.length ⟨job, event⟩⟩) := by
  have hall : ∀ observers ⊆ p.observers, ∀ (first : Nat) (w : Recorded ω), S w.world →
      ∃ world, S world ∧
        ((recordedObservers first observers).forM fun observe => observe job event) w =
          ((), ⟨world, w.exchanges ++ tellings first observers.length ⟨job, event⟩⟩) := by
    intro observers
    induction observers with
    | nil => exact fun _ _ w hw => ⟨w.world, hw, by simp [recordedObservers, tellings]; rfl⟩
    | cons observe rest ih =>
        intro hobservers first w hw
        obtain ⟨hobserve, hothers⟩ := List.cons_subset.mp hobservers
        obtain ⟨world, hworld, hrest⟩ := ih hothers (first + 1)
          ⟨(observe job event w.world).2, w.exchanges ++ [.told first ⟨job, event⟩]⟩
          (hkept.observed observe hobserve job event _ hw)
        refine ⟨world, hworld, Eq.trans ?_ (hrest.trans ?_)⟩
        · rfl
        · simp [tellings, List.range'_succ]
  exact hall p.observers (List.Subset.refl _) 0 w hw

theorem advance_recorded (job : Job) (event : JobEvent) {w : Recorded ω} (hw : S w.world) :
    ∃ world, S world ∧ p.recorded.advance (.ok (job, event)) w =
      (.ok job, ⟨world, w.exchanges ++ tellings 0 p.observers.length ⟨job, event⟩⟩) := by
  obtain ⟨world, hworld, h⟩ := notify_recorded hkept job event hw
  refine ⟨world, hworld, ?_⟩
  change ((Except.ok job : Except Failure Job), (p.recorded.notify job event w).2) = _
  rw [h]

/-- A start rejects its request, or it opens the run and leaves a job in processing. -/
theorem start_recorded (request : GenerationRequest) {w : Recorded ω} (hw : S w.world) :
    (∃ f, request.validateForm = .error f ∧ p.recorded.start request w = (.error f, w)) ∨
    (request.validateForm = .ok () ∧ ∃ id now world,
      (∃ f, (request.toJobRequest now).validate = .error f ∧ p.recorded.start request w =
        (.error f, ⟨world, w.exchanges ++ [.named id, .clocked now]⟩)) ∨
      ((request.toJobRequest now).validate = .ok () ∧ S world ∧ p.recorded.start request w =
        (.ok (startedJob id (request.toJobRequest now)),
          ⟨world, w.exchanges ++
            opening p.observers.length id (request.toJobRequest now)⟩))) := by
  cases hform : request.validateForm with
  | error f =>
      refine Or.inl ⟨f, rfl, ?_⟩
      simp only [start, hform]
      rfl
  | ok u =>
      refine Or.inr ⟨rfl, ?_⟩
      rcases hid : p.services.freshId w.world with ⟨id, w₁⟩
      rcases hnow : p.services.now w₁ with ⟨now, w₂⟩
      have hw₁ : S w₁ := by
        have hafter := hkept.freshId _ hw
        rwa [hid] at hafter
      have hw₂ : S w₂ := by
        have hafter := hkept.now _ hw₁
        rwa [hnow] at hafter
      have hnamed : p.recorded.services.freshId w = (id, ⟨w₁, w.exchanges ++ [.named id]⟩) := by
        simp only [recorded, Services.recorded, Recorded.exchange, hid]
      have hclock : p.recorded.services.now ⟨w₁, w.exchanges ++ [.named id]⟩ =
          (now, ⟨w₂, (w.exchanges ++ [.named id]) ++ [.clocked now]⟩) := by
        simp only [recorded, Services.recorded, Recorded.exchange, hnow]
      simp only [start, hform]
      rw [run_bind hnamed, run_bind hclock]
      cases hvalid : (request.toJobRequest now).validate with
      | error f =>
          refine ⟨id, now, w₂, Or.inl ⟨f, hvalid, ?_⟩⟩
          simp only [Job.create, hvalid]
          simp [advance]
          rfl
      | ok u =>
          -- Both moves of a new job succeed, and each is told before the next.
          obtain ⟨w₃, hw₃, hcreated⟩ := advance_recorded hkept
            ⟨id, request.toJobRequest now, .pending, [], none⟩
            (.created id (request.toJobRequest now).formId)
            (w := ⟨w₂, (w.exchanges ++ [.named id]) ++ [.clocked now]⟩) hw₂
          obtain ⟨w₄, hw₄, hprocessing⟩ := advance_recorded hkept
            (startedJob id (request.toJobRequest now)) (.processing id)
            (w := ⟨w₃, ((w.exchanges ++ [.named id]) ++ [.clocked now]) ++
              tellings 0 p.observers.length ⟨⟨id, request.toJobRequest now, .pending, [], none⟩,
                .created id (request.toJobRequest now).formId⟩⟩) hw₃
          refine ⟨id, now, w₄, Or.inr ⟨hvalid, hw₄, ?_⟩⟩
          simp only [Job.create, hvalid]
          rw [run_bind hcreated]
          refine hprocessing.trans ?_
          simp [opening, GenerationRequest.toJobRequest]

omit hkept in
/-- The end of a job in processing never fails, and it decides the result of the run. -/
theorem finish_recorded (id : Uuid) (asked : JobRequest) (made : List Artifact)
    (output : Option JobOutput) (result : Except Failure Unit) (w : Recorded ω) :
    ∃ done world, p.recorded.finish ⟨id, asked, .processing, made, output⟩ result w =
      match result with
      | .ok () =>
          (.ok ⟨id, asked, .completed done, made, output⟩,
            ⟨world, w.exchanges ++ .clocked done :: tellings 0 p.observers.length
              ⟨⟨id, asked, .completed done, made, output⟩,
                .completed id made.length (output.map JobOutput.archive)⟩⟩)
      | .error cause =>
          (.error (.jobFailed ⟨id, asked, .failed done cause.message, made, output⟩ cause),
            ⟨world, w.exchanges ++ .clocked done :: tellings 0 p.observers.length
              ⟨⟨id, asked, .failed done cause.message, made, output⟩,
                .failed id cause.message⟩⟩) := by
  rcases hnow : p.services.now w.world with ⟨done, w₁⟩
  refine ⟨done, ?_⟩
  have hclock : p.recorded.services.now w = (done, ⟨w₁, w.exchanges ++ [.clocked done]⟩) := by
    simp only [recorded, Services.recorded, Recorded.exchange, hnow]
  unfold finish
  rw [run_bind hclock]
  cases result with
  | ok u =>
      obtain ⟨w₂, -, hended⟩ := advance_recorded p.preserves_all
        ⟨id, asked, .completed done, made, output⟩
        (.completed id made.length (output.map JobOutput.archive))
        (w := ⟨w₁, w.exchanges ++ [.clocked done]⟩) trivial
      refine ⟨w₂, (run_bind hended _).trans ?_⟩
      simp
      rfl
  | error cause =>
      obtain ⟨w₂, -, hended⟩ := advance_recorded p.preserves_all
        ⟨id, asked, .failed done cause.message, made, output⟩ (.failed id cause.message)
        (w := ⟨w₁, w.exchanges ++ [.clocked done]⟩) trivial
      refine ⟨w₂, (run_bind hended _).trans ?_⟩
      simp
      rfl

/-- The recording of every run follows the grammar. -/
theorem generate_transcript (request : GenerationRequest) {w : Recorded ω} (hw : S w.world) :
    ∃ result new world,
      p.recorded.generate request w = (result, ⟨world, w.exchanges ++ new⟩) ∧
      Transcript p S request new result := by
  -- A run is a start, a processing whose result is kept, and an end.
  have hrejected : ∀ f t, p.recorded.start request w = (.error f, t) →
      p.recorded.generate request w = (.error (.rejected f), t) := fun f t hstart =>
    run_bind hstart _
  have hfinished : ∀ job t, p.recorded.start request w = (.ok job, t) →
      p.recorded.generate request w =
        p.recorded.finish (p.recorded.process request job t).1.2
          (p.recorded.process request job t).1.1 (p.recorded.process request job t).2 :=
    fun job t hstart => run_bind hstart _
  obtain ⟨f, hform, hstart⟩ |
      ⟨hform, id, now, w₁, ⟨f, hvalid, hstart⟩ | ⟨hvalid, hw₁, hstart⟩⟩ :=
    start_recorded hkept request hw
  · exact ⟨_, [], w.world, by rw [hrejected _ _ hstart, List.append_nil], .formRejected hform⟩
  · exact ⟨_, _, w₁, hrejected _ _ hstart, .rejected hform id hvalid⟩
  · obtain ⟨r, made, output, new, w₂, hprocess, hprocessing⟩ := process_recorded hkept request id
      (request.toJobRequest now)
      (w := ⟨w₁, w.exchanges ++ opening p.observers.length id (request.toJobRequest now)⟩) hw₁
    simp only [hfinished _ _ hstart, hprocess]
    obtain ⟨done, w₃, hfinish⟩ := finish_recorded id (request.toJobRequest now) made output r
      ⟨w₂, (w.exchanges ++ opening p.observers.length id (request.toJobRequest now)) ++ new⟩
    rw [hfinish]
    cases r with
    | ok u => exact ⟨_, _, w₃, by simp, .completed hform hvalid hprocessing id done⟩
    | error cause => exact ⟨_, _, w₃, by simp, .failed hform hvalid hprocessing id done⟩

/-- A run that is not recorded has the result and leaves the world of its recording, and the
recording is a transcript with that result. -/
theorem recorded_run (request : GenerationRequest) {w : ω} (hw : S w) :
    (p.recorded.generate request ⟨w, []⟩).1 = (p.generate request w).1 ∧
    (p.recorded.generate request ⟨w, []⟩).2.world = (p.generate request w).2 ∧
    Transcript p S request (p.recorded.generate request ⟨w, []⟩).2.exchanges
      (p.generate request w).1 := by
  obtain ⟨hresult, hworld⟩ := generate_recorded_erases p request ⟨w, []⟩
  obtain ⟨result, new, world, hrun, htranscript⟩ :=
    generate_transcript hkept request (w := ⟨w, []⟩) hw
  refine ⟨hresult, hworld, ?_⟩
  rw [← hresult, hrun]
  exact htranscript

end Grammar

end Pipeline

end FormScaffold
