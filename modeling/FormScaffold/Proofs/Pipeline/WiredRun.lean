import FormScaffold.Pipeline.Workspace
import FormScaffold.Proofs.Job.Reachable
import FormScaffold.Proofs.Pipeline.Recording
import FormScaffold.Proofs.Registry.FileNames

/-!
# Runs on a file system that succeed

A run on a file system that succeeds has rendered templates without touching the files, has
laid out what was made and has packed the folder it was laid out in.  The steps are taken
apart here, one after the other.
-/

namespace FormScaffold.Pipeline

open Calendar Files Registry

/-! ## Steps that succeed -/

namespace Step

variable {ω α β : Type} {job job' : Job} {w w' : ω}

theorem bind_eq_ok {s : Step ω α} {f : α → Step ω β} {b : β}
    (h : (s >>= f) job w = ((.ok b, job'), w')) :
    ∃ a j v, s job w = ((.ok a, j), v) ∧ f a j v = ((.ok b, job'), w') := by
  rw [Step.bind_apply] at h
  rcases hfirst : s job w with ⟨⟨r | a, j⟩, v⟩
  · rw [hfirst] at h
    cases h
  · rw [hfirst] at h
    exact ⟨a, j, v, rfl, h⟩

theorem pure_eq_ok {a b : α} (h : (pure a : Step ω α) job w = ((.ok b, job'), w')) :
    a = b ∧ job = job' ∧ w = w' := by
  cases h
  exact ⟨rfl, rfl, rfl⟩

theorem ask_eq_ok {s : StateM ω α} {a : α} (h : ask s job w = ((.ok a, job'), w')) :
    s w = (a, w') ∧ job = job' := by
  cases h
  exact ⟨rfl, rfl⟩

theorem attempt_eq_ok {s : Attempt ω α} {a : α} (h : attempt s job w = ((.ok a, job'), w')) :
    s w = (.ok a, w') ∧ job = job' := by
  change (((s w).1, job), (s w).2) = _ at h
  simp only [Prod.mk.injEq] at h
  obtain ⟨⟨hresult, hjob⟩, hworld⟩ := h
  exact ⟨Prod.ext hresult hworld, hjob⟩

theorem ofExcept_eq_ok {r : Except Failure α} {a : α}
    (h : (ofExcept r : Step ω α) job w = ((.ok a, job'), w')) :
    r = .ok a ∧ job = job' ∧ w = w' := by
  cases h
  exact ⟨rfl, rfl, rfl⟩

theorem update_eq_ok {f : Job → Except Failure Job} {u : Unit}
    (h : (update f : Step ω Unit) job w = ((.ok u, job'), w')) : f job = .ok job' ∧ w = w' := by
  unfold update at h
  split at h
  · rename_i next hnext
    cases h
    exact ⟨hnext, rfl⟩
  · cases h

end Step

/-! ## Rendering -/

/-- Templates, or some of them, were rendered: the job has for each of these an artifact with
the name of its file, and no file was touched. -/
structure Rendered (entity : String) (ts : List FamilyTemplate) (job job' : Job)
    (w w' : Workspace) : Prop where
  files : w'.files = w.files
  made : ∃ (used : List FamilyTemplate) (made : List Artifact), used.Sublist ts ∧
    job'.artifacts = job.artifacts ++ made ∧
    used.map (fun t => standardFile? entity t.name) = (made.map Artifact.filePath).map some

namespace Rendered

variable {entity : String} {job job' job'' : Job} {w w' w'' : Workspace}

/-- Nothing was rendered. -/
theorem none (ts : List FamilyTemplate) (hartifacts : job'.artifacts = job.artifacts)
    (hfiles : w'.files = w.files) : Rendered entity ts job job' w w' :=
  ⟨hfiles, [], [], List.nil_sublist ts, by simpa using hartifacts, rfl⟩

theorem append {ts more : List FamilyTemplate} (h : Rendered entity ts job job' w w')
    (h' : Rendered entity more job' job'' w' w'') :
    Rendered entity (ts ++ more) job job'' w w'' := by
  obtain ⟨used, made, hused, hartifacts, hnames⟩ := h.made
  obtain ⟨used', made', hused', hartifacts', hnames'⟩ := h'.made
  refine ⟨h'.files.trans h.files, used ++ used', made ++ made', hused.append hused', ?_, ?_⟩
  · rw [hartifacts', hartifacts, List.append_assoc]
  · simp only [List.map_append] at hnames hnames' ⊢
    rw [hnames, hnames']

end Rendered

/-- The generator of a configuration is wired to its registry and to its organizer. -/
theorem config_pipeline_iff [Archive.Codec] {c : Config} {known : FileSystem}
    {p : Pipeline Workspace} :
    c.pipeline known = .ok p ↔ ∃ registry organizer, c.registry known = .ok registry ∧
      c.organizer = .ok organizer ∧
      p = ⟨registry, Workspace.services registry organizer, [], c.archiveDir⟩ := by
  unfold Config.pipeline
  cases c.registry known with
  | error f => simp
  | ok registry =>
      cases c.organizer with
      | error f => simp
      | ok organizer => simp [eq_comm]

section Wired

variable [Archive.Codec] {p : Pipeline Workspace} {organizer : Output.Organizer}
  (hservices : p.services = Workspace.services p.registry organizer)
  (hstandard : p.registry.templates = latest standardEntries)
  {job job' : Job} {w w' : Workspace} {u : Unit}
include hservices

theorem ensureRunning_wired : p.ensureRunning job w = ((.ok (), job), w) := by
  unfold ensureRunning
  rw [hservices]
  rfl

theorem ensureRunning_keeps (h : p.ensureRunning job w = ((.ok u, job'), w')) :
    job = job' ∧ w = w' := by
  rw [ensureRunning_wired hservices] at h
  cases h
  exact ⟨rfl, rfl⟩

/-- The registry and the files tell whether a template is at hand. -/
theorem isAvailable_wired (name : String) :
    p.isAvailable name w = (p.registry.isAvailable w.files name, w) := by
  unfold isAvailable Registry.isAvailable
  rw [hservices]
  cases Keyed.get? name p.registry.templates <;> rfl

/-- A template of a family is rendered unless it is optional and not at hand. -/
theorem renderTemplate_wired (model : Model) (t : FamilyTemplate) :
    p.renderTemplate model t job w =
      if t.isOptional && !p.registry.isAvailable w.files t.name then ((.ok (), job), w)
      else p.renderEntry model t.name job w := by
  have hasked : Step.ask (p.isAvailable t.name) job w =
      ((.ok (p.registry.isAvailable w.files t.name), job), w) := by
    unfold Step.ask
    rw [isAvailable_wired hservices]
  unfold renderTemplate
  rw [Step.bind_ok (ensureRunning_wired hservices)]
  cases t.isOptional with
  | false => rfl
  | true =>
      rw [if_pos rfl, Step.bind_ok hasked]
      cases p.registry.isAvailable w.files t.name <;> rfl

include hstandard

theorem renderEntry_ok {model : Model} {t : FamilyTemplate}
    (h : p.renderEntry model t.name job w = ((.ok u, job'), w')) :
    Rendered model.entityName [t] job job' w w' := by
  obtain ⟨entry, j₁, v₁, hentry, h⟩ := Step.bind_eq_ok h
  obtain ⟨hget, rfl, rfl⟩ := Step.ofExcept_eq_ok hentry
  obtain ⟨content, j₂, v₂, hrender, h⟩ := Step.bind_eq_ok h
  obtain ⟨hrendered, rfl⟩ := Step.attempt_eq_ok hrender
  obtain ⟨now, j₃, v₃, hclock, h⟩ := Step.bind_eq_ok h
  obtain ⟨hnow, rfl⟩ := Step.ask_eq_ok hclock
  obtain ⟨a, j₄, v₄, hcreate, h⟩ := Step.bind_eq_ok h
  obtain ⟨hcreated, rfl, rfl⟩ := Step.ofExcept_eq_ok hcreate
  obtain ⟨hadded, rfl⟩ := Step.update_eq_ok h
  rw [hservices] at hrendered hnow
  have hkept₂ : v₂.files = w.files := (congrArg (fun r => r.2.files) hrendered).symm
  have hkept₃ : v₃.files = v₂.files := (congrArg (fun r => r.2.files) hnow).symm
  have hpath : a.filePath = entry.outputFileName model.entityName := by
    unfold Artifact.create at hcreated
    split at hcreated
    · cases hcreated
      rfl
    · cases hcreated
  have hname : standardFile? model.entityName t.name = some a.filePath := by
    unfold Registry.get at hget
    rw [hstandard] at hget
    split at hget
    · rename_i found
      cases hget
      rw [standardFile?, found, hpath, Option.map_some]
    · cases hget
  refine ⟨hkept₃.trans hkept₂, [t], [a], List.Sublist.refl _, ?_, by simp [hname]⟩
  obtain ⟨-, hsame⟩ := Job.whileProcessing_eq_ok.mp hadded
  cases hsame
  rfl

theorem renderTemplate_ok {model : Model} {t : FamilyTemplate}
    (h : p.renderTemplate model t job w = ((.ok u, job'), w')) :
    Rendered model.entityName [t] job job' w w' := by
  rw [renderTemplate_wired hservices] at h
  split at h
  · cases h
    exact .none [t] rfl rfl
  · exact renderEntry_ok hservices hstandard h

theorem renderTemplates_ok {model : Model} {ts : List FamilyTemplate}
    (h : p.renderTemplates model ts job w = ((.ok u, job'), w')) :
    Rendered model.entityName ts job job' w w' := by
  induction ts generalizing job w with
  | nil =>
      obtain ⟨-, rfl, rfl⟩ := Step.pure_eq_ok h
      exact .none [] rfl rfl
  | cons t rest ih =>
      obtain ⟨u, j, v, hfirst, hrest⟩ := Step.bind_eq_ok h
      exact (renderTemplate_ok hservices hstandard hfirst).append (ih hrest)

theorem renderFamilies_ok {model : Model} {families : List Family}
    (h : p.renderFamilies model families job w = ((.ok u, job'), w')) :
    Rendered model.entityName (families.flatMap Family.templates) job job' w w' := by
  induction families generalizing job w with
  | nil =>
      obtain ⟨-, rfl, rfl⟩ := Step.pure_eq_ok h
      exact .none [] rfl rfl
  | cons family rest ih =>
      obtain ⟨u, j, v, hrunning, h⟩ := Step.bind_eq_ok h
      obtain ⟨rfl, rfl⟩ := ensureRunning_keeps hservices hrunning
      obtain ⟨u, j, v, hfirst, hrest⟩ := Step.bind_eq_ok h
      exact (renderTemplates_ok hservices hstandard hfirst).append (ih hrest)

end Wired

end FormScaffold.Pipeline
