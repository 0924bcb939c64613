import FormScaffold.Pipeline.Journal
import FormScaffold.Pipeline.Run

/-!
# Recorded runs

A generator can be run with a recorder between it and the world.  The recorder writes down
every exchange with a service and every notice to an observer, with the answer, in the order
in which they happen.  `generate_recorded_erases` states that the recorder changes neither
the result of a run nor what the run does to the world, so whatever is read off a recording
holds of the run without one.
-/

namespace FormScaffold.Pipeline

open Calendar

variable {ω α β : Type}

/-- One exchange of a run with a service or an observer, with what came back. -/
inductive Exchange where
  | rendered (entry : TemplateEntry) (model : Model) (answer : Except Failure String)
  | organized (artifacts : List Artifact) (project : String)
      (answer : Except Failure Output.Organized)
  | archived (source destination : String) (answer : Except Failure String)
  | measured (archive : String) (answer : Except Failure Nat)
  | sought (path : String) (answer : Bool)
  | checked (cancelled : Bool)
  | clocked (answer : Instant)
  | named (answer : Uuid)
  | told (observer : Nat) (notice : Notice)

/-- A world with the exchanges that a run has had with it so far. -/
structure Recorded (ω : Type) where
  world : ω
  exchanges : List Exchange

namespace Recorded

/-- Do something in the world and write down the exchange. -/
def exchange (note : α → Exchange) (a : StateM ω α) : StateM (Recorded ω) α := fun t =>
  ((a t.world).1, ⟨(a t.world).2, t.exchanges ++ [note (a t.world).1]⟩)

/-- Without the recording, one action does what the other does. -/
def Erases (recorded : StateM (Recorded ω) α) (plain : StateM ω α) : Prop :=
  ∀ t, (recorded t).1 = (plain t.world).1 ∧ (recorded t).2.world = (plain t.world).2

theorem erases_pure (a : α) : Erases (ω := ω) (pure a) (pure a) := fun _ => ⟨rfl, rfl⟩

theorem erases_exchange (note : α → Exchange) (a : StateM ω α) : Erases (exchange note a) a :=
  fun _ => ⟨rfl, rfl⟩

theorem Erases.bind {recorded : StateM (Recorded ω) α} {plain : StateM ω α}
    {more : α → StateM (Recorded ω) β} {next : α → StateM ω β}
    (h : Erases recorded plain) (hmore : ∀ a, Erases (more a) (next a)) :
    Erases (recorded >>= more) (plain >>= next) := by
  intro t
  obtain ⟨hresult, hworld⟩ := h t
  have hrest := hmore (recorded t).1 (recorded t).2
  rw [hworld, hresult] at hrest
  change (more (recorded t).1 (recorded t).2).1 = (next (plain t.world).1 (plain t.world).2).1 ∧
    (more (recorded t).1 (recorded t).2).2.world = (next (plain t.world).1 (plain t.world).2).2
  rw [hresult]
  exact hrest

end Recorded

open Recorded

/-- The same services with a recorder before them. -/
def Services.recorded (s : Services ω) : Services (Recorded ω) :=
  { render := fun entry model =>
      exchange (fun answer => .rendered entry model answer) (s.render entry model)
    organize := fun artifacts project =>
      exchange (fun answer => .organized artifacts project answer) (s.organize artifacts project)
    createArchive := fun source destination =>
      exchange (fun answer => .archived source destination answer)
        (s.createArchive source destination)
    archiveSize := fun path => exchange (fun answer => .measured path answer) (s.archiveSize path)
    holdsFile := fun path => exchange (fun answer => .sought path answer) (s.holdsFile path)
    isCancelled := exchange .checked s.isCancelled
    now := exchange .clocked s.now
    freshId := exchange .named s.freshId }

/-- Observers numbered from a number on, with a recorder before each of them. -/
def recordedObservers (first : Nat) : List (Observer ω) → List (Observer (Recorded ω))
  | [] => []
  | observe :: rest =>
      (fun job event => exchange (fun _ => .told first ⟨job, event⟩) (observe job event))
        :: recordedObservers (first + 1) rest

/-- The same generator with a recorder between it and the world. -/
def recorded (p : Pipeline ω) : Pipeline (Recorded ω) :=
  { registry := p.registry
    services := p.services.recorded
    observers := recordedObservers 0 p.observers
    archiveDir := p.archiveDir }

/-! ## Steps -/

/-- What a bound action does once it is known what the first action did. -/
theorem run_bind {a : StateM ω α} {w w' : ω} {x : α} (h : a w = (x, w')) (f : α → StateM ω β) :
    (a >>= f) w = f x w' := by
  change f (a w).1 (a w).2 = f x w'
  rw [h]

/-- A step that has failed is not gone on with. -/
theorem Step.bind_apply (s : Step ω α) (f : α → Step ω β) (job : Job) (w : ω) :
    (s >>= f) job w =
      match s job w with
      | ((.ok a, job'), w') => f a job' w'
      | ((.error e, job'), w') => ((.error e, job'), w') := by
  change (match s job w with
    | ((r, job'), w') => ExceptT.bindCont f r job' w') = _
  rcases s job w with ⟨⟨r | a, job'⟩, w'⟩ <;> rfl

theorem Step.bind_ok {s : Step ω α} {job j : Job} {w w' : ω} {a : α}
    (h : s job w = ((.ok a, j), w')) (f : α → Step ω β) :
    (s >>= f) job w = f a j w' := by
  rw [Step.bind_apply, h]

theorem Step.bind_error {s : Step ω α} {job j : Job} {w w' : ω} {e : Failure}
    (h : s job w = ((.error e, j), w')) (f : α → Step ω β) :
    (s >>= f) job w = ((.error e, j), w') := by
  rw [Step.bind_apply, h]

/-- Without the recording, one step does what the other does. -/
def Step.Erases (recorded : Step (Recorded ω) α) (plain : Step ω α) : Prop :=
  ∀ job, Recorded.Erases (recorded job) (plain job)

namespace Step

theorem erases_pure (a : α) : Erases (ω := ω) (pure a) (pure a) := fun _ _ => ⟨rfl, rfl⟩

theorem erases_ofExcept (r : Except Failure α) : Erases (ω := ω) (ofExcept r) (ofExcept r) :=
  fun _ _ => ⟨rfl, rfl⟩

theorem erases_job : Erases (ω := ω) job job := fun _ _ => ⟨rfl, rfl⟩

theorem erases_update (f : Job → Except Failure Job) : Erases (ω := ω) (update f) (update f) := by
  intro job t
  cases h : f job with
  | ok job' => simp [update, h]
  | error e => simp [update, h]

theorem erases_ask {recorded : StateM (Recorded ω) α} {plain : StateM ω α}
    (h : Recorded.Erases recorded plain) : Erases (ask recorded) (ask plain) := by
  intro job t
  obtain ⟨hresult, hworld⟩ := h t
  exact ⟨congrArg (fun r => (Except.ok r, job)) hresult, hworld⟩

theorem erases_attempt {recorded : Attempt (Recorded ω) α} {plain : Attempt ω α}
    (h : Recorded.Erases recorded plain) : Erases (attempt recorded) (attempt plain) := by
  intro job t
  obtain ⟨hresult, hworld⟩ := h t
  exact ⟨congrArg (fun r => (r, job)) hresult, hworld⟩

theorem Erases.bind {recorded : Step (Recorded ω) α} {plain : Step ω α}
    {more : α → Step (Recorded ω) β} {next : α → Step ω β}
    (h : Erases recorded plain) (hmore : ∀ a, Erases (more a) (next a)) :
    Erases (recorded >>= more) (plain >>= next) := by
  intro job t
  obtain ⟨hresult, hworld⟩ := h job t
  rw [Step.bind_apply, Step.bind_apply]
  rcases hr : recorded job t with ⟨⟨r, job'⟩, t'⟩
  rcases hp : plain job t.world with ⟨⟨q, job''⟩, w'⟩
  rw [hr, hp] at hresult hworld
  obtain ⟨rfl, rfl⟩ := Prod.mk.inj hresult
  subst hworld
  cases r with
  | ok a => exact hmore a job' t'
  | error e => exact ⟨rfl, rfl⟩

end Step

/-! ## Erasure of the recording -/

theorem ensureRunning_erases (p : Pipeline ω) :
    Step.Erases p.recorded.ensureRunning p.ensureRunning := by
  refine (Step.erases_ask (erases_exchange _ _)).bind fun cancelled => ?_
  cases cancelled with
  | false => exact Step.erases_pure ()
  | true => exact Step.erases_ofExcept _

theorem isAvailable_erases (p : Pipeline ω) (name : String) :
    Erases (p.recorded.isAvailable name) (p.isAvailable name) := by
  have hregistry : p.recorded.registry = p.registry := rfl
  unfold isAvailable
  rw [hregistry]
  cases Keyed.get? name p.registry.templates with
  | some entry => exact erases_exchange _ _
  | none => exact erases_pure false

theorem renderEntry_erases (p : Pipeline ω) (model : Model) (name : String) :
    Step.Erases (p.recorded.renderEntry model name) (p.renderEntry model name) := by
  refine (Step.erases_ofExcept _).bind fun entry => ?_
  refine (Step.erases_attempt (erases_exchange _ _)).bind fun content => ?_
  refine (Step.erases_ask (erases_exchange _ _)).bind fun now => ?_
  exact (Step.erases_ofExcept _).bind fun artifact => Step.erases_update _

theorem renderTemplate_erases (p : Pipeline ω) (model : Model) (t : FamilyTemplate) :
    Step.Erases (p.recorded.renderTemplate model t) (p.renderTemplate model t) := by
  refine (ensureRunning_erases p).bind fun _ => ?_
  cases t.isOptional with
  | false => exact renderEntry_erases p model t.name
  | true =>
      refine (Step.erases_ask (isAvailable_erases p t.name)).bind fun available => ?_
      cases available with
      | false => exact Step.erases_pure ()
      | true => exact renderEntry_erases p model t.name

theorem renderTemplates_erases (p : Pipeline ω) (model : Model) (ts : List FamilyTemplate) :
    Step.Erases (p.recorded.renderTemplates model ts) (p.renderTemplates model ts) := by
  induction ts with
  | nil => exact Step.erases_pure ()
  | cons t rest ih => exact (renderTemplate_erases p model t).bind fun _ => ih

theorem renderFamilies_erases (p : Pipeline ω) (model : Model) (families : List Family) :
    Step.Erases (p.recorded.renderFamilies model families) (p.renderFamilies model families) := by
  induction families with
  | nil => exact Step.erases_pure ()
  | cons family rest ih =>
      refine (ensureRunning_erases p).bind fun _ => ?_
      exact (renderTemplates_erases p model family.templates).bind fun _ => ih

theorem process_erases (p : Pipeline ω) (request : GenerationRequest) :
    Step.Erases (p.recorded.process request) (p.process request) := by
  refine Step.erases_job.bind fun job => ?_
  refine (renderFamilies_erases p _ _).bind fun _ => ?_
  refine Step.Erases.bind ?_ fun organized => ?_
  · refine (ensureRunning_erases p).bind fun _ => ?_
    exact Step.erases_job.bind fun job => Step.erases_attempt (erases_exchange _ _)
  · refine (ensureRunning_erases p).bind fun _ => ?_
    refine (Step.erases_attempt (erases_exchange _ _)).bind fun archive => ?_
    refine (Step.erases_attempt (erases_exchange _ _)).bind fun size => ?_
    exact Step.erases_update _

theorem notify_erases (p : Pipeline ω) (job : Job) (event : JobEvent) :
    Erases (p.recorded.notify job event) (p.notify job event) := by
  have hall : ∀ (observers : List (Observer ω)) (first : Nat),
      Erases ((recordedObservers first observers).forM fun observe => observe job event)
        (observers.forM fun observe => observe job event) := by
    intro observers
    induction observers with
    | nil => exact fun _ => erases_pure ()
    | cons observe rest ih =>
        intro first
        exact (erases_exchange _ _).bind fun _ => ih (first + 1)
  exact hall p.observers 0

theorem advance_erases (p : Pipeline ω) (moved : Except Failure (Job × JobEvent)) :
    Erases (p.recorded.advance moved) (p.advance moved) := by
  cases moved with
  | error f => exact erases_pure _
  | ok next => exact (notify_erases p next.1 next.2).bind fun _ => erases_pure _

theorem start_erases (p : Pipeline ω) (request : GenerationRequest) :
    Erases (p.recorded.start request) (p.start request) := by
  unfold start
  cases request.validateForm with
  | error f => exact erases_pure _
  | ok u =>
      refine (erases_exchange _ _).bind fun id => ?_
      refine (erases_exchange _ _).bind fun now => ?_
      refine (advance_erases p _).bind fun created => ?_
      cases created with
      | error f => exact erases_pure _
      | ok job => exact advance_erases p _

theorem finish_erases (p : Pipeline ω) (job : Job) (result : Except Failure Unit) :
    Erases (p.recorded.finish job result) (p.finish job result) := by
  refine (erases_exchange _ _).bind fun now => ?_
  cases result with
  | ok u =>
      refine (advance_erases p _).bind fun ended => ?_
      cases ended <;> exact erases_pure _
  | error cause =>
      refine (advance_erases p _).bind fun ended => ?_
      cases ended <;> exact erases_pure _

/-- The recorder changes neither the result of a run nor what the run does to the world. -/
theorem generate_recorded_erases (p : Pipeline ω) (request : GenerationRequest) :
    Erases (p.recorded.generate request) (p.generate request) := by
  refine (start_erases p request).bind fun started => ?_
  cases started with
  | error f => exact erases_pure _
  | ok job => exact (process_erases p request job).bind fun ended => finish_erases p ended.2 ended.1

end FormScaffold.Pipeline
