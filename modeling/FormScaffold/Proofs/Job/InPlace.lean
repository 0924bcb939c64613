import FormScaffold.Job.Record
import FormScaffold.Proofs.Job.Stored

/-!
# Jobs kept in place

A method on the record of a job keeps what it has assigned before it fails, so that a failing
method could leave a record half changed.  None does: a method that is not permitted assigns
nothing, and one that is permitted makes all its assignments.  The record of a job stays the record
of the job that its calls lead to.
-/

namespace FormScaffold

open Calendar

namespace Job

namespace Method

variable {α β : Type} {s s' : Stored}

theorem bind_apply (m : Method α) (f : α → Method β) (s : Stored) :
    (m >>= f) s = match m s with
      | (.ok a, s') => f a s'
      | (.error e, s') => (.error e, s') := by
  change (match m s with
    | (r, s') => ExceptT.bindCont f r s') = _
  rcases m s with ⟨e | a, s'⟩ <;> rfl

/-- After a check a method goes on as the rest of it does, or not at all. -/
theorem refuseIf_bind (refused : Bool) (cause : Failure) (m : Unit → Method α) (s : Stored) :
    (refuseIf refused cause >>= m) s = if refused then (.error cause, s) else m () s := by
  cases refused <;> rfl

theorem requireStatus_bind (status : JobStatus) (operation : String) (m : Unit → Method α)
    (s : Stored) : (requireStatus status operation >>= m) s =
      if s.status = status then m () s else (.error (.invalidState operation s.status), s) := by
  have hchecked : (requireStatus status operation >>= m) s =
      (refuseIf (s.status != status) (.invalidState operation s.status) >>= m) s := by
    rw [bind_apply, bind_apply]
    rfl
  rw [hchecked, refuseIf_bind]
  by_cases h : s.status = status <;> simp [h]

/-- What a method returns can be dropped. -/
theorem discard_apply (m : Method α) (s : Stored) :
    (discard m : Method Unit) s = match m s with
      | (.ok _, s') => (.ok (), s')
      | (.error e, s') => (.error e, s') :=
  bind_apply m (fun _ => pure ()) s

end Method

end Job

/-! ## Calls as methods -/

namespace JobCall

open Job

/-- A call as a method. -/
def perform (now : Instant) : JobCall → Method Unit
  | start => discard Method.start
  | add a => Method.addArtifact a
  | setOutput o => Method.setOutput o
  | complete => discard (Method.complete now)
  | fail error => discard (Method.fail now error)

/-- The record lets the call succeed. -/
def Permitted (s : Stored) : JobCall → Prop
  | start => s.status = .pending
  | add _ | complete | fail _ => s.status = .processing
  | setOutput o => s.status = .processing ∧ o.folder ≠ "" ∧ o.archive ≠ "" ∧ 0 < o.archiveSize

instance (s : Stored) (call : JobCall) : Decidable (call.Permitted s) :=
  match call with
  | start => inferInstanceAs (Decidable (s.status = .pending))
  | add _ | complete | fail _ => inferInstanceAs (Decidable (s.status = .processing))
  | setOutput o => inferInstanceAs (Decidable
      (s.status = .processing ∧ o.folder ≠ "" ∧ o.archive ≠ "" ∧ 0 < o.archiveSize))

/-- The record after a call that is permitted. -/
def changed (now : Instant) (s : Stored) : JobCall → Stored
  | start => { s with status := .processing }
  | add a => { s with artifacts := s.artifacts ++ [a], artifactCount := s.artifacts.length + 1 }
  | setOutput o =>
      { s with
        outputFolder := some o.folder
        archivePath := some o.archive
        archiveSize := some o.archiveSize }
  | complete => { s with status := .completed, completedAt := some now }
  | fail error =>
      { s with status := .failed, completedAt := some now, errorMessage := some error }

variable {call : JobCall} {s : Stored}

/-- A permitted call makes all its assignments. -/
theorem perform_of_permitted (now : Instant) (h : call.Permitted s) :
    call.perform now s = (.ok (), call.changed now s) := by
  obtain ⟨id, formId, revisionId, formVersion, options, status, artifacts, rest⟩ := s
  cases call with
  | start =>
      cases h
      rfl
  | add a =>
      cases h
      have hlength : (artifacts ++ [a]).length = artifacts.length + 1 := List.length_append
      simp only [changed, ← hlength]
      rfl
  | setOutput o =>
      obtain ⟨hstatus, hfolder, harchive, hsize⟩ := h
      cases hstatus
      change Method.setOutput o _ = _
      unfold Method.setOutput
      -- None of the checks refuses the output.
      rw [Method.requireStatus_bind, if_pos rfl, Method.refuseIf_bind,
        if_neg (by simpa using hfolder), Method.refuseIf_bind, if_neg (by simpa using harchive),
        Method.refuseIf_bind, if_neg (by simpa using Nat.pos_iff_ne_zero.mp hsize)]
      rfl
  | complete =>
      cases h
      rfl
  | fail error =>
      cases h
      rfl

/-- A call that is not permitted fails before it assigns anything. -/
theorem perform_of_not_permitted (now : Instant) (h : ¬ call.Permitted s) :
    ∃ f, call.perform now s = (.error f, s) := by
  cases call with
  | start =>
      have hmethod : Method.start s = (.error (.invalidState "start processing" s.status), s) := by
        unfold Method.start
        rw [Method.requireStatus_bind]
        exact if_neg h
      exact ⟨_, by rw [perform, Method.discard_apply, hmethod]⟩
  | add a =>
      change ∃ f, Method.addArtifact a s = (.error f, s)
      unfold Method.addArtifact
      rw [Method.requireStatus_bind]
      exact ⟨_, if_neg h⟩
  | setOutput o =>
      change ∃ f, Method.setOutput o s = (.error f, s)
      unfold Method.setOutput
      rw [Method.requireStatus_bind]
      by_cases hstatus : s.status = .processing
      · rw [if_pos hstatus, Method.refuseIf_bind]
        by_cases hfolder : o.folder = ""
        · exact ⟨_, if_pos (by simpa using hfolder)⟩
        rw [if_neg (by simpa using hfolder), Method.refuseIf_bind]
        by_cases harchive : o.archive = ""
        · exact ⟨_, if_pos (by simpa using harchive)⟩
        rw [if_neg (by simpa using harchive), Method.refuseIf_bind]
        by_cases hsize : o.archiveSize = 0
        · exact ⟨_, if_pos (by simpa using hsize)⟩
        · exact absurd ⟨hstatus, hfolder, harchive, Nat.pos_of_ne_zero hsize⟩ h
      · exact ⟨_, if_neg hstatus⟩
  | complete =>
      have hmethod : Method.complete now s = (.error (.invalidState "complete" s.status), s) := by
        unfold Method.complete
        rw [Method.requireStatus_bind]
        exact if_neg h
      exact ⟨_, by rw [perform, Method.discard_apply, hmethod]⟩
  | fail error =>
      have hmethod : Method.fail now error s = (.error (.invalidState "fail" s.status), s) := by
        unfold Method.fail
        rw [Method.requireStatus_bind]
        exact if_neg h
      exact ⟨_, by rw [perform, Method.discard_apply, hmethod]⟩

end JobCall

/-! ## The record of a job -/

namespace Job

open JobCall

/-- What a method returns and leaves, told by the job that its call leads to and what comes with
that job. -/
def returned {α : Type} (j : Job) : Except Failure (Job × α) → Except Failure α × Stored
  | .ok (j', a) => (.ok a, j'.stored)
  | .error f => (.error f, j.stored)

theorem start_stored (j : Job) : Method.start j.stored = j.returned j.startProcessing := by
  obtain ⟨id, request, state, artifacts, output⟩ := j
  cases state <;> rfl

theorem complete_stored (j : Job) (now : Instant) :
    Method.complete now j.stored = j.returned (j.complete now) := by
  obtain ⟨id, request, state, artifacts, output⟩ := j
  cases state <;> rfl

theorem fail_stored (j : Job) (now : Instant) (error : String) :
    Method.fail now error j.stored = j.returned (j.fail now error) := by
  obtain ⟨id, request, state, artifacts, output⟩ := j
  cases state <;> rfl

theorem addArtifact_stored (j : Job) (a : Artifact) :
    Method.addArtifact a j.stored = j.returned ((j.addArtifact a).map fun j' => (j', ())) := by
  obtain ⟨id, request, state, artifacts, output⟩ := j
  cases state <;> rfl

theorem setOutput_stored (j : Job) (o : JobOutput) :
    Method.setOutput o j.stored = j.returned ((j.setOutput o).map fun j' => (j', ())) := by
  obtain ⟨id, request, state, artifacts, output⟩ := j
  cases state with
  | pending => rfl
  | processing =>
      unfold Method.setOutput Job.setOutput JobOutput.validate
      rw [Method.requireStatus_bind]
      -- The same checks in the same order.
      by_cases hfolder : (o.folder == "") = true
      · rw [Method.refuseIf_bind, if_pos hfolder, if_pos hfolder]
        rfl
      by_cases harchive : (o.archive == "") = true
      · rw [Method.refuseIf_bind, if_neg hfolder, if_neg hfolder, Method.refuseIf_bind,
          if_pos harchive, if_pos harchive]
        rfl
      by_cases hsize : (o.archiveSize == 0) = true
      · rw [Method.refuseIf_bind, if_neg hfolder, if_neg hfolder, Method.refuseIf_bind,
          if_neg harchive, if_neg harchive, Method.refuseIf_bind, if_pos hsize, if_pos hsize]
        rfl
      · rw [Method.refuseIf_bind, if_neg hfolder, if_neg hfolder, Method.refuseIf_bind,
          if_neg harchive, if_neg harchive, Method.refuseIf_bind, if_neg hsize, if_neg hsize]
        rfl
  | completed => rfl
  | failed => rfl

/-- A method whose result is dropped leaves what it left before. -/
theorem discard_returned {α : Type} {j : Job} {m : Method α} {r : Except Failure (Job × α)}
    (h : m j.stored = j.returned r) :
    (discard m : Method Unit) j.stored =
      j.returned ((r.map Prod.fst).map fun j' => (j', ())) := by
  rw [Method.discard_apply, h]
  cases r <;> rfl

/-- A call on the record of a job returns what it returns on the job, and leaves the record of
the job that it leads to. -/
theorem perform_stored (j : Job) (now : Instant) (call : JobCall) :
    call.perform now j.stored = j.returned ((call.on now j).map fun j' => (j', ())) := by
  cases call with
  | start => exact discard_returned j.start_stored
  | add a => exact j.addArtifact_stored a
  | setOutput o => exact j.setOutput_stored o
  | complete => exact discard_returned (j.complete_stored now)
  | fail error => exact discard_returned (j.fail_stored now error)

end Job

end FormScaffold

/-!
## Runs of calls on a record

Calls of any kind can be made on the record of a job one after the other, whether they succeed
or not.  The failing ones might as well not have been made; the others take the job from waiting
to its end, and what they assign stays in agreement: the count with the artifacts, the three
parts of the output with each other, and the end of the job with its status.
-/

namespace FormScaffold

open Calendar

/-- The ways from one status to another. -/
inductive JobStatus.LeadsTo : JobStatus → JobStatus → Prop where
  | started : LeadsTo .pending .processing
  | completed : LeadsTo .processing .completed
  | failed : LeadsTo .processing .failed

namespace Job

/-- A call of a run: when it was made on which record, what it returned, and what it left. -/
structure Made where
  now : Instant
  call : JobCall
  before : Stored
  result : Except Failure Unit
  after : Stored

/-- The call succeeded. -/
def Made.succeeded (m : Made) : Bool :=
  match m.result with
  | .ok () => true
  | .error _ => false

/-- The artifact that the call added. -/
def Made.added? (m : Made) : Option Artifact :=
  match m.result, m.call with
  | .ok (), .add a => some a
  | _, _ => none

namespace Stored

/-- The calls of a run, each on the record that those before it have left. -/
def made (s : Stored) : List (Instant × JobCall) → List Made
  | [] => []
  | c :: rest =>
      let outcome := c.2.perform c.1 s
      ⟨c.1, c.2, s, outcome.1, outcome.2⟩ :: made outcome.2 rest

/-- The record that a run leaves. -/
def after (s : Stored) (calls : List (Instant × JobCall)) : Stored :=
  calls.foldl (fun s c => (c.2.perform c.1 s).2) s

/-- The calls of a run that succeed. -/
def successful (s : Stored) (calls : List (Instant × JobCall)) : List (Instant × JobCall) :=
  ((s.made calls).filter Made.succeeded).map fun m => (m.now, m.call)

/-- The statuses that a run takes. -/
def statuses (s : Stored) (calls : List (Instant × JobCall)) : List JobStatus :=
  s.status :: (s.made calls).map fun m => m.after.status

/-- What a run of calls does to a record. -/
structure Disciplined (s : Stored) (calls : List (Instant × JobCall)) : Prop where
  succeeds : ∀ m ∈ s.made calls, m.result = .ok () ↔ m.call.Permitted m.before
  assigns : ∀ m ∈ s.made calls, m.result = .ok () → m.after = m.call.changed m.now m.before
  refuses : ∀ m ∈ s.made calls, ∀ f, m.result = .error f → m.after = m.before
  successful_alone : s.after (s.successful calls) = s.after calls
  statuses_path : (s.statuses calls).IsChain fun a b => a = b ∨ a.LeadsTo b
  artifacts_added : (s.after calls).artifacts = s.artifacts ++ (s.made calls).filterMap Made.added?
  artifacts_counted : (s.after calls).artifactCount = (s.after calls).artifacts.length
  ended_kept : ∀ first second, calls = first ++ second →
    (s.after first).status.isTerminal = true → s.after calls = s.after first

variable {s : Stored} {calls : List (Instant × JobCall)} {m : Made}

/-- A call either is permitted and makes its assignments, or fails and makes none. -/
theorem made_cases (h : m ∈ s.made calls) :
    (m.call.Permitted m.before ∧ m.result = .ok () ∧ m.after = m.call.changed m.now m.before) ∨
      (¬ m.call.Permitted m.before ∧ (∃ f, m.result = .error f) ∧ m.after = m.before) := by
  induction calls generalizing s with
  | nil => cases h
  | cons c rest ih =>
      rcases List.mem_cons.mp h with rfl | h
      · by_cases hpermitted : c.2.Permitted s
        · rw [JobCall.perform_of_permitted c.1 hpermitted]
          exact Or.inl ⟨hpermitted, rfl, rfl⟩
        · obtain ⟨f, hfailed⟩ := JobCall.perform_of_not_permitted c.1 hpermitted
          rw [hfailed]
          exact Or.inr ⟨hpermitted, ⟨f, rfl⟩, rfl⟩
      · exact ih h

theorem made_cons (c : Instant × JobCall) (rest : List (Instant × JobCall)) :
    s.made (c :: rest) = ⟨c.1, c.2, s, (c.2.perform c.1 s).1, (c.2.perform c.1 s).2⟩ ::
      (c.2.perform c.1 s).2.made rest := rfl

theorem after_cons (c : Instant × JobCall) (rest : List (Instant × JobCall)) :
    s.after (c :: rest) = (c.2.perform c.1 s).2.after rest := rfl

theorem after_append (first second : List (Instant × JobCall)) :
    s.after (first ++ second) = (s.after first).after second := by
  unfold after
  exact List.foldl_append

/-- Calls that fail can be left out. -/
theorem after_successful (s : Stored) (calls : List (Instant × JobCall)) :
    s.after (s.successful calls) = s.after calls := by
  induction calls generalizing s with
  | nil => rfl
  | cons c rest ih =>
      have hrest := ih (c.2.perform c.1 s).2
      unfold successful at hrest ⊢
      rw [made_cons]
      by_cases hpermitted : c.2.Permitted s
      · have hperform := JobCall.perform_of_permitted c.1 hpermitted
        rw [after_cons, ← hrest, List.filter_cons_of_pos (by rw [hperform]; rfl)]
        rfl
      · obtain ⟨f, hperform⟩ := JobCall.perform_of_not_permitted c.1 hpermitted
        rw [after_cons, ← hrest, List.filter_cons_of_neg (by simp [hperform, Made.succeeded]),
          hperform]

/-- A permitted call keeps the status or takes one of the ways. -/
theorem changed_status {call : JobCall} (now : Instant) (h : call.Permitted s) :
    s.status = (call.changed now s).status ∨ s.status.LeadsTo (call.changed now s).status := by
  cases call with
  | start => exact Or.inr ((show s.status = .pending from h) ▸ .started)
  | add a => exact Or.inl rfl
  | setOutput o => exact Or.inl rfl
  | complete => exact Or.inr ((show s.status = .processing from h) ▸ .completed)
  | fail error => exact Or.inr ((show s.status = .processing from h) ▸ .failed)

theorem statuses_isChain (s : Stored) (calls : List (Instant × JobCall)) :
    (s.statuses calls).IsChain fun a b => a = b ∨ a.LeadsTo b := by
  induction calls generalizing s with
  | nil => exact List.IsChain.singleton _
  | cons c rest ih =>
      refine List.isChain_cons_cons.mpr ⟨?_, ih (c.2.perform c.1 s).2⟩
      by_cases hpermitted : c.2.Permitted s
      · rw [JobCall.perform_of_permitted c.1 hpermitted]
        exact changed_status c.1 hpermitted
      · obtain ⟨f, hperform⟩ := JobCall.perform_of_not_permitted c.1 hpermitted
        rw [hperform]
        exact Or.inl rfl

/-- The artifacts are those from before and then the added ones. -/
theorem after_artifacts (s : Stored) (calls : List (Instant × JobCall)) :
    (s.after calls).artifacts = s.artifacts ++ (s.made calls).filterMap Made.added? := by
  induction calls generalizing s with
  | nil => simp [after, made]
  | cons c rest ih =>
      have hfirst : (c.2.perform c.1 s).2.artifacts = s.artifacts ++
          (Made.added? ⟨c.1, c.2, s, (c.2.perform c.1 s).1, (c.2.perform c.1 s).2⟩).toList := by
        by_cases hpermitted : c.2.Permitted s
        · rw [JobCall.perform_of_permitted c.1 hpermitted]
          cases c.2 <;> simp [JobCall.changed, Made.added?]
        · obtain ⟨f, hperform⟩ := JobCall.perform_of_not_permitted c.1 hpermitted
          rw [hperform]
          simp [Made.added?]
      rw [after_cons, ih, hfirst, made_cons, List.append_assoc]
      congr 1
      cases hadded : Made.added? ⟨c.1, c.2, s, (c.2.perform c.1 s).1, (c.2.perform c.1 s).2⟩ with
      | none => rw [List.filterMap_cons_none hadded]; rfl
      | some a => rw [List.filterMap_cons_some hadded]; rfl

/-- Once the job has ended, no call changes anything. -/
theorem after_ended (h : s.status.isTerminal = true) (calls : List (Instant × JobCall)) :
    s.after calls = s := by
  have hrefused (call : JobCall) : ¬ call.Permitted s := by
    intro hpermitted
    have hstatus : s.status = .pending ∨ s.status = .processing := by
      cases call with
      | start => exact Or.inl hpermitted
      | add a => exact Or.inr hpermitted
      | setOutput o => exact Or.inr hpermitted.1
      | complete => exact Or.inr hpermitted
      | fail error => exact Or.inr hpermitted
    rcases hstatus with hstatus | hstatus <;> rw [hstatus] at h <;> cases h
  induction calls with
  | nil => rfl
  | cons c rest ih =>
      obtain ⟨f, hperform⟩ := JobCall.perform_of_not_permitted c.1 (hrefused c.2)
      rw [after_cons, hperform]
      exact ih

end Stored

/-- A run of calls on the record of a job leaves the record of the job that the calls lead to. -/
theorem after_stored (j : Job) (calls : List (Instant × JobCall)) :
    j.stored.after calls = (j.run calls).stored := by
  induction calls generalizing j with
  | nil => rfl
  | cons c rest ih =>
      have hstep : (c.2.perform c.1 j.stored).2 = (j.after c.1 c.2).stored := by
        rw [perform_stored]
        unfold Job.after
        cases c.2.on c.1 j <;> rfl
      rw [Stored.after_cons, hstep, ih]
      rfl

/-- Whatever calls are made on a job, the failing ones change nothing, each succeeds exactly when
it is permitted, and the parts of the record stay those of the job that the calls lead to. -/
theorem run_disciplined (j : Job) (calls : List (Instant × JobCall)) :
    j.stored.Disciplined calls ∧ j.stored.after calls = (j.run calls).stored := by
  refine ⟨?_, j.after_stored calls⟩
  constructor
  case succeeds =>
    intro m hm
    rcases Stored.made_cases hm with ⟨hpermitted, hok, -⟩ | ⟨hrefused, ⟨f, hfailed⟩, -⟩
    · simp [hpermitted, hok]
    · simp [hrefused, hfailed]
  case assigns =>
    intro m hm hok
    rcases Stored.made_cases hm with ⟨-, -, hafter⟩ | ⟨-, ⟨f, hfailed⟩, -⟩
    · exact hafter
    · rw [hfailed] at hok
      cases hok
  case refuses =>
    intro m hm f hfailed
    rcases Stored.made_cases hm with ⟨-, hok, -⟩ | ⟨-, -, hafter⟩
    · rw [hfailed] at hok
      cases hok
    · exact hafter
  case successful_alone => exact j.stored.after_successful calls
  case statuses_path => exact j.stored.statuses_isChain calls
  case artifacts_added => exact j.stored.after_artifacts calls
  case artifacts_counted =>
    rw [after_stored]
    rfl
  case ended_kept =>
    rintro first second rfl hended
    rw [Stored.after_append, Stored.after_ended hended]

end Job

end FormScaffold
