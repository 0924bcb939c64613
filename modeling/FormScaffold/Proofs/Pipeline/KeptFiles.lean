import FormScaffold.Proofs.Output.Confinement
import FormScaffold.Proofs.Pipeline.RenderingPlan
import FormScaffold.Proofs.Registry.FileNames

/-!
# Rendered files are kept

A run makes an artifact of every text that a template renders, since no name of a file is blank,
and whoever lays out the artifacts finds each of them inside the folder of the project.  Nothing
is assumed of the services: `Keeps` says so for a part of a run, where it is proved by induction on
the transcript, and `KeepsFiles` for a whole run.
-/

namespace FormScaffold

/-- What an artifact is apart from the time of its making. -/
def Artifact.file (a : Artifact) : ArtifactKind × String × String := (a.kind, a.filePath, a.content)

/-- Artifacts with confined paths are never refused by the confinement check. -/
theorem Output.Organizer.targets_of_confined (o : Organizer) (folder : String)
    {artifacts : List Artifact} (h : ∀ a ∈ artifacts, Path.isConfined a.filePath = true) :
    ∃ targets, o.targets folder artifacts = .ok targets := by
  induction artifacts with
  | nil => exact ⟨[], rfl⟩
  | cons a rest ih =>
      obtain ⟨ha, hrest⟩ := List.forall_mem_cons.mp h
      obtain ⟨targets, htargets⟩ := ih hrest
      unfold Organizer.targets Organizer.targetOf
      rw [if_pos ha, htargets]
      exact ⟨_, rfl⟩

namespace Pipeline

/-- The file of a text that a template has rendered. -/
def Exchange.renderedFile? : Exchange → Option (ArtifactKind × String × String)
  | .rendered entry model (.ok content) =>
      some (entry.kind, entry.outputFileName model.entityName, content)
  | _ => none

/-- The files of all texts that were rendered, in order. -/
def renderedFiles (exchanges : List Exchange) : List (ArtifactKind × String × String) :=
  exchanges.filterMap Exchange.renderedFile?

/-- The artifacts of a run's job; a run that is rejected has no job. -/
def artifactsOf : Except RunFailure Job → List Artifact
  | .ok job => job.artifacts
  | .error (.jobFailed job _) => job.artifacts
  | .error (.rejected _) => []

/-- All that a part of a run has rendered has become an artifact with a confined path. -/
structure Keeps (new : List Exchange) (made : List Artifact) : Prop where
  files : renderedFiles new = made.map Artifact.file
  confined : ∀ a ∈ made, Path.isConfined a.filePath = true

/-- All that a run has rendered is an artifact of its job.  These artifacts are what the organizer
gets, and no organizer finds one of them outside the folder of the project. -/
structure KeepsFiles (exchanges : List Exchange) (result : Except RunFailure Job) : Prop where
  files : renderedFiles exchanges = (artifactsOf result).map Artifact.file
  organized : ∀ made project answer, .organized made project answer ∈ exchanges →
    made = artifactsOf result
  inside : ∀ (o : Output.Organizer) (folder : String),
    ∃ targets, o.targets folder (artifactsOf result) = .ok targets

/-! ## Parts of a run -/

theorem Keeps.nil {new : List Exchange} (h : renderedFiles new = []) : Keeps new [] :=
  ⟨h, fun _ ha => absurd ha List.not_mem_nil⟩

theorem Keeps.append {before after : List Exchange} {made others : List Artifact}
    (h : Keeps before made) (hafter : Keeps after others) :
    Keeps (before ++ after) (made ++ others) := by
  refine ⟨?_, fun a ha => (List.mem_append.mp ha).elim (h.confined a) (hafter.confined a)⟩
  rw [renderedFiles, List.filterMap_append, List.map_append]
  exact congrArg₂ (· ++ ·) h.files hafter.files

theorem Keeps.checked {new : List Exchange} {made : List Artifact} (h : Keeps new made) :
    Keeps (.checked false :: new) made :=
  ⟨h.files, h.confined⟩

section Parts

variable {ω : Type} {p : Pipeline ω} {S : ω → Prop} {model : Model}

theorem Lookup.keeps {t : FamilyTemplate} {looked : List Exchange} {there : Bool}
    (h : Lookup p S t looked there) : Keeps (.checked false :: looked) [] := by
  cases h <;> exact .nil rfl

theorem Packing.keeps {made : List Artifact} {project : String} {new : List Exchange}
    {r : Except Failure Unit} {output : Option JobOutput}
    (h : Packing p made project new r output) : Keeps new [] := by
  cases h <;> exact .nil rfl

variable (hnamed : ∀ name entry, p.registry.get name = .ok entry →
  Text.isBlankText (entry.outputFileName model.entityName) = false ∧
    Path.isConfined (entry.outputFileName model.entityName) = true)
include hnamed

/-- A template that is rendered makes an artifact. -/
theorem Making.keeps {name : String} {own : List Exchange} {r : Except Failure Artifact}
    (h : Making p S model name own r) : Keeps own r.toOption.toList := by
  cases h with
  | unknown => exact .nil rfl
  | failed => exact .nil rfl
  | ended hget _ now =>
      obtain ⟨hgiven, hconfined⟩ := hnamed name _ hget
      rw [Artifact.create, dif_pos hgiven]
      exact ⟨rfl, fun a ha => by rwa [List.mem_singleton.mp ha]⟩

theorem Rendering.keeps {ts : List FamilyTemplate} {new : List Exchange}
    {r : Except Failure Unit} {made : List Artifact} (h : Rendering p S model ts new r made) :
    Keeps new made := by
  induction h with
  | done => exact .nil rfl
  | cancelled => exact .nil rfl
  | skipped hlook _ ih => exact hlook.keeps.append ih
  | stopped _ hlook hown => exact hlook.keeps.append (hown.keeps hnamed)
  | made hlook hown _ ih => exact hlook.keeps.append ((hown.keeps hnamed).append ih)

theorem FamilyRendering.keeps {families : List Family} {new : List Exchange}
    {r : Except Failure Unit} {made : List Artifact}
    (h : FamilyRendering p S model families new r made) : Keeps new made := by
  induction h with
  | done => exact .nil rfl
  | cancelled => exact .nil rfl
  | stopped _ hown => exact (hown.keeps hnamed).checked
  | next hown _ ih => exact ((hown.keeps hnamed).append ih).checked

theorem Processing.keeps {request : GenerationRequest} {new : List Exchange}
    {r : Except Failure Unit} {made : List Artifact} {output : Option JobOutput}
    (h : Processing p S request model new r made output) : Keeps new made := by
  cases h with
  | stopped hrendering => exact hrendering.keeps hnamed
  | rendered hrendering hpacking =>
      have hboth := (hrendering.keeps hnamed).append hpacking.keeps
      rwa [List.append_nil] at hboth

end Parts

/-! ## Whole runs -/

theorem tellings_keeps (first count : Nat) (notice : Notice) :
    Keeps (tellings first count notice) [] := by
  refine .nil (List.filterMap_eq_nil_iff.mpr fun e he => ?_)
  obtain ⟨i, -, rfl⟩ := List.mem_map.mp he
  rfl

theorem opening_keeps (observers : Nat) (id : Uuid) (asked : JobRequest) :
    Keeps (opening observers id asked) [] := by
  have hcreated := tellings_keeps 0 observers
    ⟨⟨id, asked, .pending, [], none⟩, .created id asked.formId⟩
  have hstarted := tellings_keeps 0 observers ⟨startedJob id asked, .processing id⟩
  exact .nil (hcreated.append hstarted).files

/-- An exchange with the organizer has been about all that was made. -/
theorem DeliveryCalls.eq_made {made artifacts : List Artifact} {project archiveDir other : String}
    {calls : List Exchange} {answer : Except Failure Output.Organized}
    (h : DeliveryCalls made project archiveDir calls)
    (hmem : .organized artifacts other answer ∈ calls) : artifacts = made := by
  cases h <;> simp at hmem <;> exact hmem.1

section Run

variable {ω : Type} {p : Pipeline ω} {S : ω → Prop} {request : GenerationRequest}
  (hnamed : ∀ name entry project, p.registry.get name = .ok entry →
    Text.isBlankText (entry.outputFileName (Naming.entityName project)) = false ∧
      Path.isConfined (entry.outputFileName (Naming.entityName project)) = true)
include hnamed

/-- A run with a job keeps what its processing renders. -/
theorem Processing.keepsFiles {now : Calendar.Instant} {new : List Exchange}
    {r : Except Failure Unit} {made : List Artifact} {output : Option JobOutput}
    (h : Processing p S request (Model.build request.form request.options now) new r made output)
    (id : Uuid) (done : Calendar.Instant) (asked : JobRequest) (notice : Notice)
    {result : Except RunFailure Job} (hresult : artifactsOf result = made) :
    KeepsFiles (opening p.observers.length id asked
      ++ (new ++ .clocked done :: tellings 0 p.observers.length notice)) result := by
  have hentity : (Model.build request.form request.options now).entityName =
      Naming.entityName request.options.projectName := rfl
  have hkeeps : Keeps new made := by
    refine h.keeps fun name entry hget => ?_
    rw [hentity]
    exact hnamed name entry _ hget
  have hend : Keeps (.clocked done :: tellings 0 p.observers.length notice) [] :=
    .nil (tellings_keeps 0 p.observers.length notice).files
  have hwhole := (opening_keeps p.observers.length id asked).append (hkeeps.append hend)
  rw [List.nil_append, List.append_nil] at hwhole
  subst hresult
  refine ⟨hwhole.files, fun artifacts project answer hmem => ?_, fun o folder =>
    o.targets_of_confined folder hwhole.confined⟩
  obtain ⟨hopening, -⟩ := opening_quiet p.observers.length id asked
  obtain ⟨htold, -⟩ := tellings_quiet 0 p.observers.length notice
  -- Only the processing turns to the organizer.
  have hquiet : ∀ {exchanges}, deliveries exchanges = [] →
      .organized artifacts project answer ∉ exchanges := fun hnone hmem =>
    List.filter_eq_nil_iff.mp hnone _ hmem rfl
  rcases List.mem_append.mp hmem with hmem | hmem
  · exact absurd hmem (hquiet hopening)
  rcases List.mem_append.mp hmem with hmem | hmem
  · exact h.deliveryCalls.eq_made (List.mem_filter.mpr ⟨hmem, rfl⟩)
  · exact absurd hmem (hquiet htold)

/-- So does every run. -/
theorem Transcript.keepsFiles {exchanges : List Exchange} {result : Except RunFailure Job}
    (h : Transcript p S request exchanges result) : KeepsFiles exchanges result := by
  have hrejected : ∀ (o : Output.Organizer) folder, ∃ targets, o.targets folder [] = .ok targets :=
    fun o folder => ⟨[], rfl⟩
  cases h with
  | formRejected => exact ⟨rfl, by simp, hrejected⟩
  | rejected => exact ⟨rfl, by simp, hrejected⟩
  | completed _ _ hprocessing id done => exact hprocessing.keepsFiles hnamed id done _ _ rfl
  | failed _ _ hprocessing id done => exact hprocessing.keepsFiles hnamed id done _ _ rfl

end Run

/-- The entity name of every project starts with a letter, has neither white space nor what divides
folders or leads out of them, and is stable as long as it has letters and digits only.  With it
every template of every registry that can be built makes a file with a name and inside its folder,
so no run loses what it has rendered to the checks of artifacts and of their paths. -/
theorem entity_files_accepted (project : String) :
    (∃ c rest, (Naming.entityName project).toList = c :: rest ∧ Text.isAlphabetic c = true) ∧
    (∀ c ∈ (Naming.entityName project).toList, c ≠ '/' ∧ c ≠ '.' ∧ Text.isBlank c = false) ∧
    ((∀ c ∈ (Naming.entityName project).toList, Text.isAlphanumeric c = true) →
      Naming.entityName (Naming.entityName project) = Naming.entityName project) ∧
    ∀ (root : String) (entries : List TemplateEntry) (r : Registry),
      Registry.build root entries = .ok r →
      (∀ e ∈ r.entries,
        Text.isBlankText (e.outputFileName (Naming.entityName project)) = false ∧
          Path.isConfined (e.outputFileName (Naming.entityName project)) = true) ∧
      ∀ {ω : Type} (p : Pipeline ω), p.registry = r → ∀ (request : GenerationRequest) (w : ω),
        (p.recorded.generate request ⟨w, []⟩).1 = (p.generate request w).1 ∧
        (p.recorded.generate request ⟨w, []⟩).2.world = (p.generate request w).2 ∧
        KeepsFiles (p.recorded.generate request ⟨w, []⟩).2.exchanges (p.generate request w).1 := by
  have hchars : (Naming.entityName project).toList = Naming.entityOf project.toList :=
    String.toList_ofList
  refine ⟨?_, fun c hc => ?_, fun hplain => ?_, fun root entries r hbuilt => ⟨fun e he => ?_, ?_⟩⟩
  · rw [hchars]
    exact Naming.entityOf_head project.toList
  · rw [hchars] at hc
    have hdivider := Naming.isDivider_of_mem_entityOf hc
    have hne : ∀ d ∈ Text.dividerSigns, c ≠ d := by
      rintro d hd rfl
      have hsign := (Bool.or_eq_false_iff.mp hdivider).2
      rw [List.contains_iff_mem.mpr hd] at hsign
      cases hsign
    exact ⟨hne '/' (by decide), hne '.' (by decide), (Bool.or_eq_false_iff.mp hdivider).1⟩
  · rw [hchars] at hplain
    rw [Naming.entityName, hchars, Naming.entityOf_entityOf hplain]
    rfl
  · exact Registry.outputFileName_of_built hbuilt he project
  · intro ω p hregistry request w
    obtain ⟨hresult, hworld, htranscript⟩ := recorded_run p.preserves_all request trivial
    refine ⟨hresult, hworld, htranscript.keepsFiles fun name entry other hget => ?_⟩
    rw [hregistry] at hget
    exact Registry.outputFileName_of_built hbuilt (Registry.mem_entries_of_get hget) other

theorem tableEntries_files_accepted :
    (∀ c ∈ (Naming.entityName "straße 7").toList, Text.isAlphanumeric c = true) ∧
    Naming.entityName (Naming.entityName "straße 7") = Naming.entityName "straße 7" ∧
    Registry.build "templates" tableEntries = .ok tablePipeline.registry ∧
    (∀ e ∈ tablePipeline.registry.entries,
      Text.isBlankText (e.outputFileName (Naming.entityName "straße 7")) = false ∧
        Path.isConfined (e.outputFileName (Naming.entityName "straße 7")) = true) ∧
    KeepsFiles (tablePipeline.recorded.generate tableRequest ⟨(), []⟩).2.exchanges
      (tablePipeline.generate tableRequest ()).1 := by
  have hplain : ∀ c ∈ (Naming.entityName "straße 7").toList, Text.isAlphanumeric c = true :=
    List.all_iff_forall_prop.mp (by decide +kernel)
  have hbuilt : Registry.build "templates" tableEntries = .ok tablePipeline.registry := by
    decide
  obtain ⟨-, -, hagain, haccepted⟩ := entity_files_accepted "straße 7"
  obtain ⟨hfiles, hruns⟩ := haccepted "templates" tableEntries tablePipeline.registry hbuilt
  exact ⟨hplain, hagain hplain, hbuilt, hfiles, (hruns tablePipeline rfl tableRequest ()).2.2⟩

end Pipeline

end FormScaffold
