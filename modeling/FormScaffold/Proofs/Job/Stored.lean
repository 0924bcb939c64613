import FormScaffold.Job.Record
import FormScaffold.Proofs.Job.Reachable
import FormScaffold.Job.Uuid
import FormScaffold.Proofs.Json.Scalars
import Mathlib.Tactic.Ring
import FormScaffold.Record.Format

/-!
# Stored jobs

The checks on a stored job admit exactly the consistent jobs, each from the parts that it says
of itself.
-/

/-!
## Identifiers are read back

The written form of an identifier has its thirty-two digits between four hyphens, and the
digits from one position on add up to the identifier once those before are known.
-/

namespace FormScaffold.Uuid

/-- The digits from a position on complete the number that those before it make up. -/
theorem hexNumber?_digits (u : Uuid) (count : Nat) : ∀ start, start + count = 32 →
    hexNumber? (u.value.toNat / 16 ^ count) (u.digits start count) = some u.value.toNat := by
  induction count with
  | zero =>
      intro start _
      simp [digits, hexNumber?]
  | succ count ih =>
      intro start hstart
      have hplace : 31 - start = count := by omega
      have hdigit : Json.hexValue? (u.digit start) = some (u.value.toNat / 16 ^ count % 16) := by
        unfold digit
        rw [hplace]
        exact Json.hexValue?_hexDigit _ (Nat.mod_lt _ (by decide))
      have hnext : u.value.toNat / 16 ^ (count + 1) * 16 + u.value.toNat / 16 ^ count % 16 =
          u.value.toNat / 16 ^ count := by
        rw [Nat.pow_succ, ← Nat.div_div_eq_div_mul, Nat.mul_comm, Nat.div_add_mod]
      have hsplit : u.digits start (count + 1) = u.digit start :: u.digits (start + 1) count := by
        simp [digits, List.range'_succ]
      rw [hsplit]
      unfold hexNumber?
      simp only [hdigit, hnext]
      exact ih (start + 1) (by omega)

/-- Without its hyphens the written form is the digits. -/
theorem withoutHyphens?_chars (u : Uuid) : withoutHyphens? u.chars = some (u.digits 0 32) := by
  rfl

/-- The written form of an identifier is read as the identifier. -/
theorem ofChars?_chars (u : Uuid) : ofChars? u.chars = some u := by
  have hlength : u.chars.length = 36 := rfl
  have hdigits : (u.digits 0 32).length = 32 := rfl
  have hnumber := hexNumber?_digits u 32 0 rfl
  have hsmall : u.value.toNat / 16 ^ 32 = 0 := Nat.div_eq_of_lt u.value.isLt
  rw [hsmall] at hnumber
  unfold ofChars?
  rw [hlength, if_neg (by decide), if_pos (by decide)]
  unfold ofHyphenated?
  rw [withoutHyphens?_chars]
  simp only [Option.bind_some]
  unfold ofDigits?
  rw [hdigits, if_pos (by decide), hnumber]
  simp

end FormScaffold.Uuid

namespace FormScaffold.Job

open Calendar Json Record Record.Fields

/-- What the stored form of a job says. -/
def stored (j : Job) : Stored where
  id := j.id
  formId := j.request.formId
  revisionId := j.request.revisionId
  formVersion := j.request.formVersion
  options := j.request.options
  status := j.status
  artifacts := j.artifacts
  outputFolder := j.output.map JobOutput.folder
  archivePath := j.output.map JobOutput.archive
  archiveSize := j.output.map JobOutput.archiveSize
  artifactCount := j.artifactCount
  requestedAt := j.request.requestedAt
  requestedBy := j.request.requestedBy
  completedAt := j.state.endTime?
  errorMessage := j.state.error?

theorem status_eq_pending {j : Job} : j.status = .pending ↔ j.state = .pending := by
  unfold status
  cases j.state <;> simp [JobState.status]

/-! ## The checks on a stored job -/

namespace Stored

/-- A state is that of a stored job if its status, end and error are stored, and the end is not
before the request. -/
theorem state_eq_ok {s : Stored} {state : JobState} :
    s.state = .ok state ↔ s.status = state.status ∧ s.completedAt = state.endTime? ∧
      s.errorMessage = state.error? ∧
      ∀ t, state.endTime? = some t → t.before s.requestedAt = false := by
  constructor
  · intro h
    unfold Stored.state at h
    -- Only the four agreeing combinations pass; an end must also come after the request.
    cases hstatus : s.status <;> cases htime : s.completedAt <;>
      cases herror : s.errorMessage <;>
      simp [hstatus, htime, herror, JobStatus.isTerminal] at h
    case pending.none.none =>
      subst h
      exact ⟨rfl, rfl, rfl, fun t ht => (nomatch ht)⟩
    case processing.none.none =>
      subst h
      exact ⟨rfl, rfl, rfl, fun t ht => (nomatch ht)⟩
    case completed.some.none t =>
      split at h
      · cases h
      · rename_i hnot
        cases h
        refine ⟨rfl, rfl, rfl, fun t' ht' => ?_⟩
        cases ht'
        exact eq_false_of_ne_true hnot
    case completed.some.some =>
      split at h <;> cases h
    case failed.some.none =>
      split at h <;> cases h
    case failed.some.some t error =>
      split at h
      · cases h
      · rename_i hnot
        cases h
        refine ⟨rfl, rfl, rfl, fun t' ht' => ?_⟩
        cases ht'
        exact eq_false_of_ne_true hnot
  · rintro ⟨hstatus, htime, herror, hended⟩
    unfold Stored.state
    rw [hstatus, htime, herror]
    cases state with
    | pending => rfl
    | processing => rfl
    | completed t =>
        have hnot := hended t rfl
        simp [JobState.status, JobState.endTime?, JobState.error?, JobStatus.isTerminal, hnot]
    | failed t error =>
        have hnot := hended t rfl
        simp [JobState.status, JobState.endTime?, JobState.error?, JobStatus.isTerminal, hnot]

theorem output_eq_ok {s : Stored} {output : Option JobOutput} :
    s.output = .ok output ↔ s.outputFolder = output.map JobOutput.folder ∧
      s.archivePath = output.map JobOutput.archive ∧
      s.archiveSize = output.map JobOutput.archiveSize ∧
      ∀ o, output = some o → o.validate = .ok () ∧ s.status ≠ .pending := by
  constructor
  · intro h
    unfold Stored.output at h
    cases hfolder : s.outputFolder <;> cases harchive : s.archivePath <;>
      cases hsize : s.archiveSize <;>
      simp only [hfolder, harchive, hsize, reduceCtorEq] at h
    case none.none.none =>
      cases h
      exact ⟨rfl, rfl, rfl, fun o ho => (nomatch ho)⟩
    case some.some.some folder archive size =>
      split at h
      · rename_i hvalid
        split at h
        · cases h
        · rename_i hstatus
          cases h
          refine ⟨rfl, rfl, rfl, fun o ho => ?_⟩
          cases ho
          exact ⟨hvalid, fun heq => hstatus (beq_iff_eq.mpr heq)⟩
      · cases h
  · rintro ⟨hfolder, harchive, hsize, houtput⟩
    unfold Stored.output
    rw [hfolder, harchive, hsize]
    cases output with
    | none => rfl
    | some o =>
        obtain ⟨hvalid, hstatus⟩ := houtput o rfl
        simp [hvalid, hstatus]

/-- A stored job stands for a job exactly if it passes all checks, in the order of their making. -/
theorem toJob_checks {s : Stored} {j : Job} : s.toJob = .ok j ↔
    s.id.isNil = false ∧ s.request.validate = .ok () ∧ s.artifactCount = s.artifacts.length ∧
      (s.status = .pending → s.artifacts = []) ∧ ∃ state output, s.state = .ok state ∧
        s.output = .ok output ∧ j = ⟨s.id, s.request, state, s.artifacts, output⟩ := by
  unfold Stored.toJob
  simp only [bind, Except.bind]
  constructor
  · intro h
    split at h
    · cases h
    rename_i hid
    cases hrequest : s.request.validate with
    | error f => simp [hrequest] at h
    | ok u =>
        simp only [hrequest] at h
        split at h
        · cases h
        rename_i hcount
        split at h
        · cases h
        rename_i hpending
        cases hstate : s.state with
        | error f => simp [hstate] at h
        | ok state =>
            cases houtput : s.output with
            | error f => simp [hstate, houtput] at h
            | ok output =>
                simp only [hstate, houtput, Except.ok.injEq] at h
                refine ⟨eq_false_of_ne_true hid, rfl, ?_, fun hstatus => ?_, state, output, rfl,
                  rfl, h.symm⟩
                · simpa using hcount
                · simpa [hstatus] using hpending
  · rintro ⟨hid, hrequest, hcount, hpending, state, output, hstate, houtput, rfl⟩
    have hartifacts : (s.status == .pending && !s.artifacts.isEmpty) = false := by
      by_cases hstatus : s.status = .pending
      · simp [hpending hstatus]
      · simp [hstatus]
    simp [hid, hrequest, hcount, hartifacts, hstate, houtput]

/-- A stored job stands for a job exactly if it says what the job's own stored form says and
the job is consistent. -/
theorem toJob_eq_ok {s : Stored} {j : Job} : s.toJob = .ok j ↔ s = j.stored ∧ j.Consistent := by
  constructor
  · intro h
    obtain ⟨hid, hrequest, hcount, hpending, state, output, hstate, houtput, rfl⟩ :=
      toJob_checks.mp h
    obtain ⟨hstatus, htime, herror, hended⟩ := state_eq_ok.mp hstate
    obtain ⟨hfolder, harchive, hsize, hvalid⟩ := output_eq_ok.mp houtput
    -- Every part of the record is now named by a part of the job.
    constructor
    · obtain ⟨id, formId, revisionId, formVersion, options, status, artifacts, outputFolder,
        archivePath, archiveSize, artifactCount, requestedAt, requestedBy, completedAt,
        errorMessage⟩ := s
      simp only at hstatus htime herror hfolder harchive hsize hcount
      subst hstatus htime herror hfolder harchive hsize hcount
      rfl
    · refine ⟨hid, hrequest, fun hpend => ?_, fun o ho => (hvalid o ho).1, hended⟩
      have hstatus' : s.status = .pending := by
        rw [hstatus]
        exact congrArg JobState.status hpend
      refine ⟨hpending hstatus', ?_⟩
      cases output with
      | none => rfl
      | some o => exact absurd hstatus' (hvalid o rfl).2
  · rintro ⟨rfl, hid, hrequest, hpending, houtput, hended⟩
    have hstate : j.stored.state = .ok j.state :=
      state_eq_ok.mpr ⟨rfl, rfl, rfl, hended⟩
    have hstarted : ∀ o, j.output = some o → j.status ≠ .pending := by
      intro o ho hstatus
      have hnone := (hpending (status_eq_pending.mp hstatus)).2
      rw [ho] at hnone
      cases hnone
    have houtput : j.stored.output = .ok j.output :=
      output_eq_ok.mpr ⟨rfl, rfl, rfl, fun o ho => ⟨houtput o ho, hstarted o ho⟩⟩
    exact toJob_checks.mpr ⟨hid, hrequest, rfl,
      fun hstatus => (hpending (status_eq_pending.mp hstatus)).1, j.state, j.output, hstate,
      houtput, rfl⟩

end Stored

/-! ## The fields of a stored job -/

/-- The numbers, maps and instants of a stored job are values of their types. -/
structure Stored.Fits (s : Stored) : Prop where
  formVersion : s.formVersion < 2 ^ 32
  options : s.options.MapsOrdered
  artifacts : ∀ a ∈ s.artifacts, a.Storable
  archiveSize : ∀ n, s.archiveSize = some n → n < 2 ^ 64
  artifactCount : s.artifactCount < 2 ^ 64
  requestedAt : s.requestedAt.Representable
  completedAt : ∀ t, s.completedAt = some t → t.Representable

theorem decode_uuid (u : Uuid) : Uuid.decode (Value.string u.text) = .ok u := by
  change ofOption? (Uuid.ofChars? (String.ofList u.chars).toList) = .ok u
  rw [String.toList_ofList, Uuid.ofChars?_chars]
  rfl

/-- The data of a job says what its stored form says. -/
theorem decode_storedFields {j : Job} (h : j.Fits) (hcount : j.artifacts.length < 2 ^ 64) :
    storedFields.decode j.toJson = .ok j.stored := by
  have htext : ∀ s, text (Value.string s) = .ok s := fun _ => rfl
  have hgiven : ∀ s : Option String, optionOf text (Value.ofOption .string s) = .ok s :=
    fun _ => optionOf_ofOption fun _ _ => ⟨rfl, rfl⟩
  have hoptions : GenerationOptions.decode j.request.options.toJson = .ok j.request.options :=
    (GenerationOptions.readsAs_toJson h.request.options).given
  have hstatus : choice JobStatus.byName (Value.string j.status.name) = .ok j.status := by
    apply choice_string
    cases j.status <;> decide
  have hartifacts : listOf Artifact.decode (Value.array (j.artifacts.map Artifact.toJson)) =
      .ok j.artifacts :=
    listOf_map fun a ha => Artifact.decode_toJson (h.artifacts a ha)
  have hfolder := hgiven (j.output.map JobOutput.folder)
  have harchive := hgiven (j.output.map JobOutput.archive)
  have hsize : optionOf word64 (Value.ofOption .ofNat (j.output.map JobOutput.archiveSize)) =
      .ok (j.output.map JobOutput.archiveSize) := by
    refine optionOf_ofOption fun n hn => ⟨?_, rfl⟩
    obtain ⟨o, ho, rfl⟩ := Option.map_eq_some_iff.mp hn
    exact naturalBelow_ofNat (h.output o ho)
  rw [ofOption_map] at hfolder harchive hsize
  have hended : optionOf Artifact.instant
      (Value.ofOption (fun t => .string t.zuluText) j.state.endTime?) = .ok j.state.endTime? :=
    optionOf_ofOption fun t ht => ⟨Artifact.instant_zuluText (h.endTime t ht), rfl⟩
  unfold storedFields
  refine decode_of_spells ((spells_required (decode_uuid j.id)).map Stored.mk
    |>.seq (spells_required (decode_uuid j.request.formId))
    |>.seq (spells_required (decode_uuid j.request.revisionId))
    |>.seq (spells_required (naturalBelow_ofNat h.request.formVersion))
    |>.seq (spells_required hoptions)
    |>.seq (spells_required hstatus)
    |>.seq (spells_required hartifacts)
    |>.seq (spells_optional hfolder)
    |>.seq (spells_optional harchive)
    |>.seq (spells_optional hsize)
    |>.seq (spells_required (naturalBelow_ofNat hcount))
    |>.seq (spells_required (Artifact.instant_zuluText h.request.requestedAt))
    |>.seq (spells_required (htext j.request.requestedBy))
    |>.seq (spells_optional hended)
    |>.seq (spells_optional (hgiven j.state.error?))) (by decide) (.refl _) rfl

/-- What is read as a stored job fits the types of its parts, and its artifacts are read from the
data that is assigned to them. -/
theorem stored_read {σ : Type} [Source σ] {s : σ} {t : Stored} (h : storedFields.decode s = .ok t) :
    t.Fits ∧ ∃ taken items, storedFields.assign s = .ok taken ∧
      taken.lookup "artifacts" = some items ∧ listOf Artifact.decode items = .ok t.artifacts := by
  obtain ⟨taken, hassign, h₁⟩ := Fields.decode_eq_ok h
  obtain ⟨_, errorMessage, h₂, -, rfl⟩ := seq_eq_ok h₁
  obtain ⟨_, completedAt, h₃, hcompleted, rfl⟩ := seq_eq_ok h₂
  obtain ⟨_, requestedBy, h₄, -, rfl⟩ := seq_eq_ok h₃
  obtain ⟨_, requestedAt, h₅, hrequested, rfl⟩ := seq_eq_ok h₄
  obtain ⟨_, artifactCount, h₆, hcount, rfl⟩ := seq_eq_ok h₅
  obtain ⟨_, archiveSize, h₇, hsize, rfl⟩ := seq_eq_ok h₆
  obtain ⟨_, archivePath, h₈, -, rfl⟩ := seq_eq_ok h₇
  obtain ⟨_, outputFolder, h₉, -, rfl⟩ := seq_eq_ok h₈
  obtain ⟨_, artifacts, h₁₀, hartifacts, rfl⟩ := seq_eq_ok h₉
  obtain ⟨_, status, h₁₁, -, rfl⟩ := seq_eq_ok h₁₀
  obtain ⟨_, options, h₁₂, hoptions, rfl⟩ := seq_eq_ok h₁₁
  obtain ⟨_, formVersion, h₁₃, hversion, rfl⟩ := seq_eq_ok h₁₂
  -- The identifiers can be any.
  obtain ⟨_, revisionId, h₁₄, -, rfl⟩ := seq_eq_ok h₁₃
  obtain ⟨_, formId, h₁₅, -, rfl⟩ := seq_eq_ok h₁₄
  obtain ⟨id, -, rfl⟩ := map_eq_ok h₁₅
  obtain ⟨versionData, -, hversion⟩ := required_eq_ok hversion
  obtain ⟨optionsData, -, hoptions⟩ := required_eq_ok hoptions
  obtain ⟨items, hitems, hartifacts⟩ := required_eq_ok hartifacts
  obtain ⟨countData, -, hcount⟩ := required_eq_ok hcount
  obtain ⟨requestedData, -, hrequested⟩ := required_eq_ok hrequested
  refine ⟨?_, taken, items, hassign, hitems, hartifacts⟩
  constructor
  · exact naturalBelow_eq_ok hversion
  · exact GenerationOptions.mapsOrdered_of_decode hoptions
  · exact forall_of_listOf (fun _ _ => Artifact.storable_of_decode) hartifacts
  · intro n hn
    obtain ⟨sizeData, hsize⟩ := optional_eq_ok hsize n hn
    exact naturalBelow_eq_ok hsize
  · exact naturalBelow_eq_ok hcount
  · exact Artifact.representable_of_instant hrequested
  · intro time htime
    obtain ⟨timeData, htime⟩ := optional_eq_ok hcompleted time htime
    exact Artifact.representable_of_instant htime

/-! ## Jobs that are read -/

variable {σ : Type} [Source σ]

/-- A job is read exactly from data that says what its stored form says, if it is consistent. -/
theorem decode_eq_ok {s : σ} {j : Job} :
    decode s = .ok j ↔ storedFields.decode s = .ok j.stored ∧ j.Consistent := by
  unfold decode
  cases hfields : storedFields.decode s with
  | error e => simp
  | ok t =>
      simp only [Artifact.refusal_eq_ok, Stored.toJob_eq_ok, Except.ok.injEq]

theorem fits_of_stored {j : Job} (h : j.stored.Fits) :
    j.Fits ∧ j.artifacts.length < 2 ^ 64 := by
  refine ⟨⟨⟨h.formVersion, h.options, h.requestedAt⟩, h.completedAt, h.artifacts, ?_⟩,
    h.artifactCount⟩
  intro o ho
  exact h.archiveSize o.archiveSize (Option.map_eq_some_iff.mpr ⟨o, ho, rfl⟩)

theorem isPlain_toJson {j : Job} (h : j.Fits) (hcount : j.artifacts.length < 2 ^ 64) :
    j.toJson.isPlain depthLimit = true := by
  unfold depthLimit
  have hoptions : j.request.options.toJson.isPlain 127 = true :=
    GenerationOptions.isPlain_toJson (by decide) _
  have hversion : (Value.ofNat j.request.formVersion).isPlain 127 = true :=
    Value.isPlain_ofNat (Nat.lt_trans h.request.formVersion (by decide))
  have hartifacts : (Value.array (j.artifacts.map Artifact.toJson)).isPlain 127 = true := by
    refine Value.isPlain_array (by decide) fun v hv => ?_
    obtain ⟨a, ha, rfl⟩ := List.mem_map.mp hv
    exact Artifact.isPlain_toJson (by decide) (h.artifacts a ha)
  have hcount' : (Value.ofNat j.artifactCount).isPlain 127 = true := Value.isPlain_ofNat hcount
  have hgiven : ∀ {α : Type} (f : α → String) (o : Option α),
      (Value.ofOption (fun a => .string (f a)) o).isPlain 127 = true :=
    fun _ _ => Value.isPlain_ofOption fun _ _ => Value.isPlain_string _ _
  have hsize : (Value.ofOption (fun o => .ofNat o.archiveSize) j.output).isPlain 127 = true :=
    Value.isPlain_ofOption fun o ho => Value.isPlain_ofNat (h.output o ho)
  refine Value.isPlain_object (by decide) ?_
  simp [hoptions, hversion, hartifacts, hcount', hgiven, hsize]

end FormScaffold.Job

/-!
## Restored jobs

The data that is read as a job is the data of a reachable job, and all reachable jobs come back
from their data and from its text.
-/

namespace FormScaffold.Job

open Json Record

/-- The data of a reachable job is read as the job. -/
theorem decode_toJson {j : Job} (h : j.Reachable) : decode j.toJson = .ok j := by
  obtain ⟨hconsistent, hfits, hcount⟩ := consistent_of_reachable h
  exact decode_eq_ok.mpr ⟨decode_storedFields hfits hcount, hconsistent⟩

/-- The text of a reachable job is read as the job. -/
theorem read_text {j : Job} (h : j.Reachable) :
    Format.json.read (fun _ => decode) j.toJson.text = .ok j := by
  obtain ⟨-, hfits, hcount⟩ := consistent_of_reachable h
  have hvalue : Json.read j.toJson.text = .ok j.toJson :=
    Json.read_text (isPlain_toJson hfits hcount)
  unfold Format.read
  simp only [hvalue, Except.toOption, decodeGiven, decode_toJson h]

/-- The data says of a job what the job's own stored form says, and of each file of the job what
that file's own stored form says. -/
def RecordedIn {σ : Type} [Source σ] (s : σ) (j : Job) : Prop :=
  storedFields.decode s = .ok j.stored ∧
    ∃ taken items, storedFields.assign s = .ok taken ∧ taken.lookup "artifacts" = some items ∧
      listOf Artifact.storedFields.decode items = .ok (j.artifacts.map Artifact.stored)

theorem recordedIn_of_decode {σ : Type} [Source σ] {s : σ} {j : Job} (h : decode s = .ok j) :
    RecordedIn s j := by
  obtain ⟨hfields, -⟩ := decode_eq_ok.mp h
  obtain ⟨-, taken, items, hassign, hitems, hartifacts⟩ := stored_read hfields
  refine ⟨hfields, taken, items, hassign, hitems, ?_⟩
  obtain ⟨pieces, hpieces, heach⟩ := listOf_eq_ok.mp hartifacts
  refine listOf_eq_ok.mpr ⟨pieces, hpieces, ?_⟩
  rw [List.forall₂_map_right_iff]
  exact heach.imp fun _ _ => Artifact.decode_eq_ok.mp

/-- Every job that is read from any data is reachable. -/
theorem reachable_of_decode {σ : Type} [Source σ] {s : σ} {j : Job} (h : decode s = .ok j) :
    j.Reachable := by
  obtain ⟨hfields, hconsistent⟩ := decode_eq_ok.mp h
  obtain ⟨hfits, hcount⟩ := fits_of_stored (stored_read hfields).1
  exact reachable_of_consistent hconsistent hfits hcount

/-- What is read as a job is exactly what is written of reachable jobs: they all come back, and
no data is read as any other job or as a job that it does not record. -/
theorem restores_exactly_reachable :
    (∀ j : Job, j.Reachable →
      decode j.toJson = .ok j ∧ Format.json.read (fun _ => decode) j.toJson.text = .ok j) ∧
    ∀ (v : Json.Value) (j : Job), decode v = .ok j →
      j.Reachable ∧ j.Consistent ∧ RecordedIn v j := by
  constructor
  · intro j h
    exact ⟨decode_toJson h, read_text h⟩
  · intro v j h
    exact ⟨reachable_of_decode h, (decode_eq_ok.mp h).2, recordedIn_of_decode h⟩

/-- A job that is given a file and an output before it is started, in vain, and again after it
was, and is then completed. -/
def lateHistory : JobHistory where
  id := ⟨1⟩
  request :=
    ⟨⟨2⟩, ⟨3⟩, 1, { GenerationOptions.bare "Shop" with deployment := true }, ⟨60, 0⟩, "ann"⟩
  calls :=
    [(⟨60, 0⟩, .add ⟨.dockerfile, "Dockerfile", "FROM scratch", ⟨30, 0⟩, by decide⟩),
     (⟨61, 0⟩, .setOutput ⟨"out", "out.zip", 22⟩), (⟨61, 5⟩, .start),
     (⟨62, 0⟩, .add ⟨.dockerfile, "Dockerfile", "FROM scratch", ⟨30, 0⟩, by decide⟩),
     (⟨62, 0⟩, .setOutput ⟨"out", "", 22⟩), (⟨63, 0⟩, .setOutput ⟨"out", "out.zip", 22⟩),
     (⟨64, 0⟩, .complete), (⟨65, 0⟩, .fail "late")]

/-- The job that comes of it. -/
def lateJob : Job where
  id := ⟨1⟩
  request := lateHistory.request
  state := .completed ⟨64, 0⟩
  artifacts := [⟨.dockerfile, "Dockerfile", "FROM scratch", ⟨30, 0⟩, by decide⟩]
  output := some ⟨"out", "out.zip", 22⟩

theorem lateJob_restored : lateJob.Reachable ∧ decode lateJob.toJson = .ok lateJob := by
  have hpossible : lateHistory.Possible :=
    ⟨by decide, ⟨by decide, by decide, by decide⟩, by decide, by decide⟩
  have hreachable : lateJob.Reachable := ⟨lateHistory, hpossible, by rfl, by decide⟩
  exact ⟨hreachable, (restores_exactly_reachable.1 lateJob hreachable).1⟩

end FormScaffold.Job
