import FormScaffold.Job.Basic
import FormScaffold.Proofs.Job.StoredParts

/-!
# Reachable jobs

A job is moved by calls, each made at a reading of the clock.  A call either succeeds, in one of
five ways, or fails and leaves the job as it was.

A job is reachable if it is made for a request and then moved by calls, with the clock never
going back.  Every reachable job is consistent, and every consistent job is reachable: it is
started, given its files and its output, and ended.
-/

namespace FormScaffold

open Calendar

/-! ## Calls on a job -/

/-- A call on a job. -/
inductive JobCall where
  | start
  | add (a : Artifact)
  | setOutput (o : JobOutput)
  | complete
  | fail (error : String)
  deriving DecidableEq, Repr

/-- The job after a call at a time, or the failure of the call. -/
def JobCall.on (call : JobCall) (now : Instant) (j : Job) : Except Failure Job :=
  match call with
  | start => j.startProcessing.map Prod.fst
  | add a => j.addArtifact a
  | setOutput o => j.setOutput o
  | complete => (j.complete now).map Prod.fst
  | fail error => (j.fail now error).map Prod.fst

namespace Job

/-- What a call can do to a job if it succeeds. -/
inductive Step (now : Instant) : Job → JobCall → Job → Prop where
  | start {j : Job} (h : j.state = .pending) : Step now j .start { j with state := .processing }
  | add {j : Job} (h : j.state = .processing) (a : Artifact) :
      Step now j (.add a) { j with artifacts := j.artifacts ++ [a] }
  | setOutput {j : Job} (h : j.state = .processing) {o : JobOutput} (hvalid : o.validate = .ok ()) :
      Step now j (.setOutput o) { j with output := some o }
  | complete {j : Job} (h : j.state = .processing) :
      Step now j .complete { j with state := .completed now }
  | fail {j : Job} (h : j.state = .processing) (error : String) :
      Step now j (.fail error) { j with state := .failed now error }

theorem whileProcessing_eq_ok {α : Type} {j : Job} {operation : String}
    {result : Except Failure α} {a : α} :
    j.whileProcessing operation result = .ok a ↔ j.state = .processing ∧ result = .ok a := by
  unfold whileProcessing
  cases j.state <;> simp

theorem startProcessing_eq_ok {j : Job} {moved : Job × JobEvent} :
    j.startProcessing = .ok moved ↔
      j.state = .pending ∧ ({ j with state := .processing }, .processing j.id) = moved := by
  unfold startProcessing
  cases j.state <;> simp

theorem setOutput_eq_ok {j j' : Job} {o : JobOutput} :
    j.setOutput o = .ok j' ↔
      j.state = .processing ∧ o.validate = .ok () ∧ { j with output := some o } = j' := by
  unfold setOutput
  rw [whileProcessing_eq_ok]
  cases o.validate <;> simp

theorem map_fst_eq_ok {r : Except Failure (Job × JobEvent)} {j : Job} :
    r.map Prod.fst = .ok j ↔ ∃ event, r = .ok (j, event) := by
  cases r with
  | error f => simp [Except.map]
  | ok moved =>
      obtain ⟨j', event⟩ := moved
      simp [Except.map]

/-- A call succeeds exactly if there is a step for it. -/
theorem on_eq_ok {call : JobCall} {now : Instant} {j j' : Job} :
    call.on now j = .ok j' ↔ Step now j call j' := by
  constructor
  · intro h
    cases call with
    | start =>
        obtain ⟨event, hmoved⟩ := map_fst_eq_ok.mp h
        obtain ⟨hstate, heq⟩ := startProcessing_eq_ok.mp hmoved
        cases heq
        exact .start hstate
    | add a =>
        obtain ⟨hstate, hadded⟩ := whileProcessing_eq_ok.mp h
        cases hadded
        exact .add hstate a
    | setOutput o =>
        obtain ⟨hstate, hvalid, rfl⟩ := setOutput_eq_ok.mp h
        exact .setOutput hstate hvalid
    | complete =>
        obtain ⟨event, hmoved⟩ := map_fst_eq_ok.mp h
        obtain ⟨hstate, heq⟩ := whileProcessing_eq_ok.mp hmoved
        cases heq
        exact .complete hstate
    | fail error =>
        obtain ⟨event, hmoved⟩ := map_fst_eq_ok.mp h
        obtain ⟨hstate, heq⟩ := whileProcessing_eq_ok.mp hmoved
        cases heq
        exact .fail hstate error
  · intro h
    cases h with
    | start h => exact map_fst_eq_ok.mpr ⟨_, startProcessing_eq_ok.mpr ⟨h, rfl⟩⟩
    | add h a => exact whileProcessing_eq_ok.mpr ⟨h, rfl⟩
    | setOutput h hvalid => exact setOutput_eq_ok.mpr ⟨h, hvalid, rfl⟩
    | complete h => exact map_fst_eq_ok.mpr ⟨_, whileProcessing_eq_ok.mpr ⟨h, rfl⟩⟩
    | fail h error => exact map_fst_eq_ok.mpr ⟨_, whileProcessing_eq_ok.mpr ⟨h, rfl⟩⟩

/-- The job after a call; one that fails leaves it as it was. -/
def after (j : Job) (now : Instant) (call : JobCall) : Job :=
  match call.on now j with
  | .ok j' => j'
  | .error _ => j

/-- The job after calls, each made at its time. -/
def run (j : Job) (calls : List (Instant × JobCall)) : Job :=
  calls.foldl (fun j c => j.after c.1 c.2) j

theorem after_eq_of_step {j j' : Job} {now : Instant} {call : JobCall} (h : Step now j call j') :
    j.after now call = j' := by
  unfold after
  rw [on_eq_ok.mpr h]

theorem after_cases (j : Job) (now : Instant) (call : JobCall) :
    Step now j call (j.after now call) ∨ j.after now call = j := by
  cases hcall : call.on now j with
  | ok j' =>
      have hstep := on_eq_ok.mp hcall
      exact Or.inl (after_eq_of_step hstep ▸ hstep)
  | error f =>
      refine Or.inr ?_
      unfold after
      rw [hcall]

/-- What every step keeps, every run keeps. -/
theorem run_keeps {P : Job → Prop} {calls : List (Instant × JobCall)} {j : Job} (h : P j)
    (hstep : ∀ c ∈ calls, ∀ i i' : Job, Step c.1 i c.2 i' → P i → P i') : P (j.run calls) := by
  induction calls generalizing j with
  | nil => exact h
  | cons c rest ih =>
      have hnext : P (j.after c.1 c.2) := by
        rcases after_cases j c.1 c.2 with hone | hsame
        · exact hstep c List.mem_cons_self _ _ hone h
        · exact hsame.symm ▸ h
      exact ih hnext fun d hd => hstep d (List.mem_cons_of_mem _ hd)

end Job

/-! ## Jobs and what moves them -/

/-- The parts of a request are values of the types that are stored for them. -/
structure JobRequest.Fits (r : JobRequest) : Prop where
  formVersion : r.formVersion < 2 ^ 32
  options : r.options.MapsOrdered
  requestedAt : r.requestedAt.Representable

/-- What is given to a call is a value of its type. -/
def JobCall.Fits : JobCall → Prop
  | add a => a.Storable
  | setOutput o => o.archiveSize < 2 ^ 64
  | start | complete | fail _ => True

instance (call : JobCall) : Decidable call.Fits :=
  match call with
  | .add a => inferInstanceAs (Decidable a.Storable)
  | .setOutput o => inferInstanceAs (Decidable (o.archiveSize < 2 ^ 64))
  | .start | .complete | .fail _ => inferInstanceAs (Decidable True)

/-- The making of a job and the calls on it, each with the time that the clock showed. -/
structure JobHistory where
  id : Uuid
  request : JobRequest
  calls : List (Instant × JobCall)

/-- The job has an identifier, everything given is a value of its type, and the clock never
went back. -/
structure JobHistory.Possible (h : JobHistory) : Prop where
  id : h.id.isNil = false
  request : h.request.Fits
  calls : ∀ c ∈ h.calls, c.1.Representable ∧ c.2.Fits
  clock : (h.request.requestedAt :: h.calls.map Prod.fst).Pairwise
    fun earlier later => later.before earlier = false

/-- The job that a history leads to. -/
def JobHistory.job (h : JobHistory) : Except Failure Job :=
  match Job.create h.id h.request with
  | .ok (created, _) => .ok (created.run h.calls)
  | .error f => .error f

namespace Job

/-- Some history leads to the job, and its files can be counted. -/
def Reachable (j : Job) : Prop :=
  ∃ h : JobHistory, h.Possible ∧ h.job = .ok j ∧ j.artifacts.length < 2 ^ 64

/-- The parts of a job agree with each other. -/
structure Consistent (j : Job) : Prop where
  id : j.id.isNil = false
  request : j.request.validate = .ok ()
  pending : j.state = .pending → j.artifacts = [] ∧ j.output = none
  output : ∀ o, j.output = some o → o.validate = .ok ()
  ended : ∀ t, j.state.endTime? = some t → t.before j.request.requestedAt = false

/-- The parts of a job are values of the types that are stored for them. -/
structure Fits (j : Job) : Prop where
  request : j.request.Fits
  endTime : ∀ t, j.state.endTime? = some t → t.Representable
  artifacts : ∀ a ∈ j.artifacts, a.Storable
  output : ∀ o, j.output = some o → o.archiveSize < 2 ^ 64

/-! ## Reachable jobs are consistent -/

theorem Step.request_eq {now : Instant} {call : JobCall} {j j' : Job} (h : Step now j call j') :
    j'.request = j.request := by
  cases h <;> rfl

theorem Step.consistent {now : Instant} {call : JobCall} {j j' : Job} (h : Step now j call j')
    (hnow : now.before j.request.requestedAt = false) (hj : j.Consistent) : j'.Consistent := by
  obtain ⟨hid, hrequest, hpending, houtput, hended⟩ := hj
  cases h with
  | start hstate => exact ⟨hid, hrequest, fun h => (nomatch h), houtput, fun t h => (nomatch h)⟩
  | add hstate a =>
      refine ⟨hid, hrequest, fun h => ?_, houtput, hended⟩
      rw [hstate] at h
      cases h
  | setOutput hstate hvalid =>
      refine ⟨hid, hrequest, fun h => ?_, fun o h => ?_, hended⟩
      · rw [hstate] at h
        cases h
      · cases h
        exact hvalid
  | complete hstate =>
      refine ⟨hid, hrequest, fun h => (nomatch h), houtput, fun t h => ?_⟩
      cases h
      exact hnow
  | fail hstate error =>
      refine ⟨hid, hrequest, fun h => (nomatch h), houtput, fun t h => ?_⟩
      cases h
      exact hnow

theorem Step.fits {now : Instant} {call : JobCall} {j j' : Job} (h : Step now j call j')
    (hnow : now.Representable) (hcall : call.Fits) (hj : j.Fits) : j'.Fits := by
  obtain ⟨hrequest, hend, hartifacts, houtput⟩ := hj
  cases h with
  | start hstate => exact ⟨hrequest, fun t h => (nomatch h), hartifacts, houtput⟩
  | add hstate a =>
      refine ⟨hrequest, hend, fun b hb => ?_, houtput⟩
      rcases List.mem_append.mp hb with hb | hb
      · exact hartifacts b hb
      · rw [List.mem_singleton.mp hb]
        exact hcall
  | setOutput hstate hvalid =>
      refine ⟨hrequest, hend, hartifacts, fun o h => ?_⟩
      cases h
      exact hcall
  | complete hstate =>
      refine ⟨hrequest, fun t h => ?_, hartifacts, houtput⟩
      cases h
      exact hnow
  | fail hstate error =>
      refine ⟨hrequest, fun t h => ?_, hartifacts, houtput⟩
      cases h
      exact hnow

/-- A job as it is made for a request. -/
def created (id : Uuid) (request : JobRequest) : Job := ⟨id, request, .pending, [], none⟩

theorem job_eq_ok {h : JobHistory} {j : Job} :
    h.job = .ok j ↔ h.request.validate = .ok () ∧ (created h.id h.request).run h.calls = j := by
  unfold JobHistory.job create created
  cases h.request.validate with
  | error f => simp
  | ok u => simp

theorem created_consistent {id : Uuid} {request : JobRequest} (hid : id.isNil = false)
    (hvalid : request.validate = .ok ()) : (created id request).Consistent :=
  ⟨hid, hvalid, fun _ => ⟨rfl, rfl⟩, fun _ h => (nomatch h), fun _ h => (nomatch h)⟩

theorem created_fits {id : Uuid} {request : JobRequest} (hrequest : request.Fits) :
    (created id request).Fits :=
  ⟨hrequest, fun _ h => (nomatch h), fun _ h => (nomatch h), fun _ h => (nomatch h)⟩

/-- A reachable job is consistent and fits its stored form. -/
theorem consistent_of_reachable {j : Job} (h : j.Reachable) :
    j.Consistent ∧ j.Fits ∧ j.artifacts.length < 2 ^ 64 := by
  obtain ⟨history, hpossible, hjob, hcount⟩ := h
  obtain ⟨hvalid, rfl⟩ := job_eq_ok.mp hjob
  obtain ⟨hid, hrequest, hcalls, hclock⟩ := hpossible
  have hafter : ∀ c ∈ history.calls, c.1.before history.request.requestedAt = false :=
    fun c hc => (List.pairwise_cons.mp hclock).1 c.1 (List.mem_map_of_mem hc)
  -- The request stays, so every reading of the clock stays after it.
  let kept (i : Job) : Prop := i.request = history.request ∧ i.Consistent ∧ i.Fits
  have hstep : ∀ c ∈ history.calls, ∀ i i' : Job, Step c.1 i c.2 i' → kept i → kept i' := by
    rintro c hc i i' hstep ⟨hsame, hconsistent, hfits⟩
    obtain ⟨htime, hcall⟩ := hcalls c hc
    have hnow : c.1.before i.request.requestedAt = false := by
      rw [hsame]
      exact hafter c hc
    exact ⟨hstep.request_eq.trans hsame, hstep.consistent hnow hconsistent,
      hstep.fits htime hcall hfits⟩
  have hcreated : kept (created history.id history.request) :=
    ⟨rfl, created_consistent hid hvalid, created_fits hrequest⟩
  obtain ⟨-, hconsistent, hfits⟩ := run_keeps hcreated hstep
  exact ⟨hconsistent, hfits, hcount⟩

/-! ## Consistent jobs are reachable -/

theorem run_append (j : Job) (first second : List (Instant × JobCall)) :
    j.run (first ++ second) = (j.run first).run second := by
  unfold run
  exact List.foldl_append

/-- One call with a step, and then the others. -/
theorem run_cons_step {j j' : Job} {now : Instant} {call : JobCall} (h : Step now j call j')
    (rest : List (Instant × JobCall)) : j.run ((now, call) :: rest) = j'.run rest := by
  unfold run
  rw [List.foldl_cons, after_eq_of_step h]

/-- A job in processing is given files one by one. -/
theorem run_adds {j : Job} (h : j.state = .processing) (now : Instant) (made : List Artifact) :
    j.run (made.map fun a => (now, .add a)) = { j with artifacts := j.artifacts ++ made } := by
  induction made generalizing j with
  | nil => simp [run]
  | cons a rest ih =>
      have hnext := ih (j := { j with artifacts := j.artifacts ++ [a] }) h
      rw [List.map_cons, run_cons_step (.add h a), hnext]
      simp

/-- The calls that make a started job of one, give it its files and set its output. -/
def workCalls (j : Job) : List (Instant × JobCall) :=
  let now := j.request.requestedAt
  (now, .start) :: (j.artifacts.map fun a => (now, .add a)) ++
    j.output.toList.map fun o => (now, .setOutput o)

/-- The call that ends a job in a state. -/
def endCalls : JobState → List (Instant × JobCall)
  | .pending | .processing => []
  | .completed time => [(time, .complete)]
  | .failed time error => [(time, .fail error)]

/-- Calls that lead to a job in its state. -/
def callsOf (j : Job) : List (Instant × JobCall) :=
  if j.state = .pending then [] else j.workCalls ++ endCalls j.state

theorem run_workCalls {j : Job} (houtput : ∀ o, j.output = some o → o.validate = .ok ()) :
    (created j.id j.request).run j.workCalls = { j with state := .processing } := by
  unfold workCalls
  rw [List.cons_append, run_cons_step (.start rfl), run_append, run_adds rfl]
  obtain ⟨id, request, state, artifacts, output⟩ := j
  cases output with
  | none => rfl
  | some o =>
      have hstep : Step request.requestedAt ⟨id, request, .processing, artifacts, none⟩
          (.setOutput o) ⟨id, request, .processing, artifacts, some o⟩ :=
        .setOutput rfl (houtput o rfl)
      exact run_cons_step hstep []

theorem run_endCalls {j : Job} (h : j.state ≠ .pending) :
    ({ j with state := .processing } : Job).run (endCalls j.state) = j := by
  obtain ⟨id, request, state, artifacts, output⟩ := j
  cases state with
  | pending => exact absurd rfl h
  | processing => rfl
  | completed time => exact run_cons_step (.complete rfl) []
  | failed time error => exact run_cons_step (.fail rfl error) []

theorem run_callsOf {j : Job} (h : j.Consistent) :
    (created j.id j.request).run j.callsOf = j := by
  unfold callsOf
  by_cases hstate : j.state = .pending
  -- A pending job is as it was made.
  · obtain ⟨hartifacts, houtput⟩ := h.pending hstate
    obtain ⟨id, request, state, artifacts, output⟩ := j
    simp only at hstate hartifacts houtput
    subst hstate hartifacts houtput
    rfl
  · rw [if_neg hstate, run_append, run_workCalls h.output, run_endCalls hstate]

theorem mem_workCalls {j : Job} {c : Instant × JobCall} (h : c ∈ j.workCalls) :
    c.1 = j.request.requestedAt ∧ (c.2 = .start ∨ (∃ a ∈ j.artifacts, c.2 = .add a) ∨
      ∃ o, j.output = some o ∧ c.2 = .setOutput o) := by
  unfold workCalls at h
  rcases List.mem_append.mp h with h | h
  · rcases List.mem_cons.mp h with rfl | h
    · exact ⟨rfl, Or.inl rfl⟩
    · obtain ⟨a, ha, rfl⟩ := List.mem_map.mp h
      exact ⟨rfl, Or.inr (Or.inl ⟨a, ha, rfl⟩)⟩
  · obtain ⟨o, ho, rfl⟩ := List.mem_map.mp h
    exact ⟨rfl, Or.inr (Or.inr ⟨o, Option.mem_toList.mp ho, rfl⟩)⟩

theorem mem_endCalls {state : JobState} {c : Instant × JobCall} (h : c ∈ endCalls state) :
    state.endTime? = some c.1 ∧ c.2.Fits := by
  cases state with
  | pending => cases h
  | processing => cases h
  | completed time =>
      rw [List.mem_singleton.mp h]
      exact ⟨rfl, trivial⟩
  | failed time error =>
      rw [List.mem_singleton.mp h]
      exact ⟨rfl, trivial⟩

theorem callsOf_fit {j : Job} (h : j.Fits) : ∀ c ∈ j.callsOf, c.1.Representable ∧ c.2.Fits := by
  intro c hc
  unfold callsOf at hc
  split at hc
  · cases hc
  · rcases List.mem_append.mp hc with hc | hc
    · obtain ⟨htime, hcall⟩ := mem_workCalls hc
      refine ⟨htime ▸ h.request.requestedAt, ?_⟩
      rcases hcall with hcall | ⟨a, ha, hcall⟩ | ⟨o, ho, hcall⟩
      · rw [hcall]
        trivial
      · rw [hcall]
        exact h.artifacts a ha
      · rw [hcall]
        exact h.output o ho
    · obtain ⟨htime, hcall⟩ := mem_endCalls hc
      exact ⟨h.endTime c.1 htime, hcall⟩

theorem before_irrefl (t : Instant) : t.before t = false := by
  unfold Instant.before
  simp

/-- All calls are made at the time of the request, but for the last one, which ends the job. -/
theorem callsOf_clock {j : Job} (h : j.Consistent) :
    (j.request.requestedAt :: j.callsOf.map Prod.fst).Pairwise
      fun earlier later => later.before earlier = false := by
  have hwork : ∀ t ∈ j.request.requestedAt :: j.workCalls.map Prod.fst,
      t = j.request.requestedAt := by
    intro t ht
    rcases List.mem_cons.mp ht with rfl | ht
    · rfl
    · obtain ⟨c, hc, rfl⟩ := List.mem_map.mp ht
      exact (mem_workCalls hc).1
  have hend : ∀ t ∈ (endCalls j.state).map Prod.fst, t.before j.request.requestedAt = false := by
    intro t ht
    obtain ⟨c, hc, rfl⟩ := List.mem_map.mp ht
    exact h.ended c.1 (mem_endCalls hc).1
  unfold callsOf
  split
  · exact List.pairwise_singleton _ _
  · rw [List.map_append, ← List.cons_append, List.pairwise_append]
    refine ⟨?_, ?_, fun a ha b hb => ?_⟩
    · refine List.pairwise_of_forall_mem_list fun a ha b hb => ?_
      rw [hwork a ha, hwork b hb]
      exact before_irrefl _
    · cases j.state with
      | pending => exact .nil
      | processing => exact .nil
      | completed time => exact List.pairwise_singleton _ _
      | failed time error => exact List.pairwise_singleton _ _
    · rw [hwork a ha]
      exact hend b hb

/-- A consistent job that fits its stored form is reachable. -/
theorem reachable_of_consistent {j : Job} (h : j.Consistent) (hfits : j.Fits)
    (hcount : j.artifacts.length < 2 ^ 64) : j.Reachable :=
  ⟨⟨j.id, j.request, j.callsOf⟩,
    ⟨h.id, hfits.request, callsOf_fit hfits, callsOf_clock h⟩,
    job_eq_ok.mpr ⟨h.request, run_callsOf h⟩, hcount⟩

end Job

end FormScaffold
