import FormScaffold.Proofs.Files.Landing
import FormScaffold.Proofs.Pipeline.Delivery
import FormScaffold.Proofs.Pipeline.RenderingPlan
import FormScaffold.Proofs.Shipped.Sources
import FormScaffold.Proofs.Text.Bytes

/-!
# Runs with the shipped templates

A workspace is equipped for a generator if its engine has compiled none but shipped templates, and
the source files of the standard templates are those that are shipped.  In such a workspace every
template of a family is rendered, which leaves the workspace equipped, so a run of the generator
renders everything that its options ask for: if it fails, it fails before or after that.
-/

namespace FormScaffold

namespace Pipeline

open Files Registry Shipped

/-! ## Equipped workspaces -/

/-- The source files of the standard templates are those that are shipped. -/
def HoldsShipped (r : Registry) (fs : FileSystem) : Prop :=
  ∀ e ∈ standardEntries, ∀ text, templateFiles.lookup e.source = some text →
    fs.stat (r.sourceOf e) = .ok (.file (Text.utf8Bytes text))

/-- What a workspace needs to render the standard templates of a registry. -/
structure Equipped (r : Registry) (w : Workspace) : Prop where
  engine : w.engine.HoldsAmong sources
  files : HoldsShipped r w.files

/-- An artifact is what a standard template makes of a model. -/
def MadeFrom (m : Model) (t : FamilyTemplate) (a : Artifact) : Prop :=
  ∃ e ∈ standardEntries, e.name = t.name ∧ a.kind = e.kind ∧
    a.filePath = e.outputFileName m.entityName ∧ ∃ world, Renders world e.name m a.content

theorem readText_of_stat {fs : FileSystem} {path text : String}
    (h : fs.stat path = .ok (.file (Text.utf8Bytes text))) : fs.readText path = .ok text := by
  unfold FileSystem.readText FileSystem.readBytes
  rw [h]
  simp only [Text.ofUtf8?_utf8Bytes]

/-- Rendering a standard template in an equipped workspace succeeds and keeps it equipped. -/
theorem render_equipped {r : Registry} {w : Workspace} (hw : Equipped r w) {e : TemplateEntry}
    (he : e ∈ standardEntries) (m : Model) : ∃ text world w',
      Workspace.render r e m w = (.ok text, w') ∧ Equipped r w' ∧ Renders world e.name m text := by
  obtain ⟨source, hsource, hname⟩ := mem_sources he
  obtain ⟨text, hrenders⟩ := exists_renders he ⟨w.clock.now, w.environment⟩ m
  obtain ⟨other, next, hother, hcompile, hnext, hrender⟩ := hrenders w.engine hw.engine
  obtain rfl : other = source := fittingTable_sources.source_unique hname hother
  have hread : Template.Engine.readSource w.files e.name (r.sourceOf e) = .ok other := by
    unfold Template.Engine.readSource
    rw [readText_of_stat (hw.files e he other hsource)]
  refine ⟨text, _, { w with engine := next }, ?_, ⟨hnext, hw.files⟩, hrenders⟩
  unfold Workspace.render Template.Engine.renderFile
  simp only [hread, hcompile, hrender]

/-- A standard template is rendered alike in all equipped workspaces. -/
theorem render_alike {r : Registry} {v w : Workspace} (hv : Equipped r v) (hw : Equipped r w)
    {e : TemplateEntry} (he : e ∈ standardEntries) (m : Model) :
    (Workspace.render r e m v).1 = (Workspace.render r e m w).1 := by
  obtain ⟨text, hall⟩ := exists_renders_always he m ⟨0, 0⟩
  obtain ⟨s, world, v', hrender, -, hs⟩ := render_equipped hv he m
  obtain ⟨t, world', w', hrender', -, ht⟩ := render_equipped hw he m
  rw [hrender, hrender', hs.unique (hall world), ht.unique (hall world')]

/-- The name of the file of a standard template is not blank. -/
theorem outputFileName_given {e : TemplateEntry} (he : e ∈ standardEntries) (entity : String) :
    Text.isBlankText (e.outputFileName entity) = false := by
  have hshapes : ∀ s ∈ standardShapes, s.ending.any (fun c => !Text.isBlank c) = true := by
    decide
  have hname : (e.outputFileName entity).toList ∈
      standardShapes.map (NameShape.fill entity.toList) :=
    outputFileNames_standard entity ▸ List.mem_map_of_mem he
  obtain ⟨s, hs, hfill⟩ := List.mem_map.mp hname
  obtain ⟨c, hc, hblank⟩ := List.any_eq_true.mp (hshapes s hs)
  unfold Text.isBlankText
  refine List.all_eq_false.mpr ⟨c, ?_, by simpa using hblank⟩
  rw [← hfill]
  exact (NameShape.ending_suffix_fill entity.toList s).subset hc

/-- The templates of a family are standard ones. -/
theorem standard_of_mem_templates (family : Family) :
    ∀ t ∈ family.templates, ∃ e ∈ standardEntries, e.name = t.name := by
  cases family <;> decide

/-! ## Steps -/

section Wired

variable [Archive.Codec] {p : Pipeline Workspace} {organizer : Output.Organizer}
  (hservices : p.services = Workspace.services p.registry organizer)
  (hstandard : p.registry.templates = latest standardEntries)
  {job : Job} {w : Workspace} (hjob : job.state = .processing) (hw : Equipped p.registry w)
include hservices

include hstandard hjob hw

theorem renderEntry_equipped {e : TemplateEntry} (he : e ∈ standardEntries) (m : Model) :
    ∃ a w', p.renderEntry m e.name job w = ((.ok (), job.withArtifacts [a]), w') ∧
      Equipped p.registry w' ∧ a.kind = e.kind ∧ a.filePath = e.outputFileName m.entityName ∧
      ∃ world, Renders world e.name m a.content := by
  have hget : p.registry.get e.name = .ok e := by
    unfold Registry.get
    rw [hstandard, get?_standardEntries e he]
  obtain ⟨text, world, v, hrender, hv, hrenders⟩ := render_equipped hw he m
  have hattempt : Step.attempt (p.services.render e m) job w = ((.ok text, job), v) := by
    rw [hservices]
    change (((Workspace.render p.registry e m w).1, job), (Workspace.render p.registry e m w).2) = _
    rw [hrender]
  have hnow : Step.ask p.services.now job v =
      ((.ok v.clock.now, job), { v with clock := v.clock.advanced }) := by
    rw [hservices]
    rfl
  have hcreate : Artifact.create e.kind (e.outputFileName m.entityName) text v.clock.now =
      .ok ⟨e.kind, e.outputFileName m.entityName, text, v.clock.now,
        outputFileName_given he m.entityName⟩ := by
    unfold Artifact.create
    rw [dif_pos (outputFileName_given he m.entityName)]
  refine ⟨⟨e.kind, e.outputFileName m.entityName, text, v.clock.now,
    outputFileName_given he m.entityName⟩, { v with clock := v.clock.advanced }, ?_,
    ⟨hv.engine, hv.files⟩, rfl, rfl, world, hrenders⟩
  unfold renderEntry
  rw [hget, Step.bind_ok (s := Step.ofExcept (.ok e)) rfl, Step.bind_ok hattempt, Step.bind_ok hnow,
    hcreate, Step.bind_ok (s := Step.ofExcept (.ok _)) rfl]
  unfold Step.update
  simp only [Job.addArtifact_processing hjob]

theorem renderTemplate_equipped {t : FamilyTemplate} {e : TemplateEntry} (he : e ∈ standardEntries)
    (hname : e.name = t.name) (m : Model) :
    ∃ a w', p.renderTemplate m t job w = ((.ok (), job.withArtifacts [a]), w') ∧
      Equipped p.registry w' ∧ MadeFrom m t a := by
  obtain ⟨a, w', hrender, hw', hkind, hpath, hrenders⟩ :=
    renderEntry_equipped hservices hstandard hjob hw he m
  refine ⟨a, w', ?_, hw', e, he, hname, hkind, hpath, hrenders⟩
  -- An optional template is looked for first, and its source file is there.
  have hthere : p.registry.isAvailable w.files e.name = true := by
    obtain ⟨source, hsource, -⟩ := mem_sources he
    unfold Registry.isAvailable FileSystem.isFile
    rw [hstandard, get?_standardEntries e he]
    simp only [hw.files e he source hsource]
  rw [renderTemplate_wired hservices, ← hname, hthere, Bool.not_true, Bool.and_false, if_neg nofun,
    hrender]

omit hjob hw in
theorem renderTemplates_equipped {ts : List FamilyTemplate}
    (hts : ∀ t ∈ ts, ∃ e ∈ standardEntries, e.name = t.name) (m : Model) (job : Job)
    (hjob : job.state = .processing) (hw : Equipped p.registry w) :
    ∃ made w', p.renderTemplates m ts job w = ((.ok (), job.withArtifacts made), w') ∧
      Equipped p.registry w' ∧ List.Forall₂ (MadeFrom m) ts made := by
  induction ts generalizing job w with
  | nil => exact ⟨[], w, by rw [Job.withArtifacts_nil]; rfl, hw, .nil⟩
  | cons t rest ih =>
      obtain ⟨e, he, hname⟩ := hts t List.mem_cons_self
      obtain ⟨a, v, hfirst, hv, hmade⟩ :=
        renderTemplate_equipped hservices hstandard hjob hw he hname m
      obtain ⟨made, w', hrest, hw', hall⟩ :=
        ih (fun t ht => hts t (List.mem_cons_of_mem _ ht)) (job.withArtifacts [a]) hjob hv
      refine ⟨a :: made, w', ?_, hw', .cons hmade hall⟩
      unfold renderTemplates
      rw [Step.bind_ok hfirst, hrest, Job.withArtifacts_withArtifacts]
      rfl

omit hjob hw in
theorem renderFamilies_equipped (families : List Family) (m : Model) (job : Job)
    (hjob : job.state = .processing) (hw : Equipped p.registry w) :
    ∃ made w', p.renderFamilies m families job w = ((.ok (), job.withArtifacts made), w') ∧
      Equipped p.registry w' ∧
      List.Forall₂ (MadeFrom m) (families.flatMap Family.templates) made := by
  induction families generalizing job w with
  | nil => exact ⟨[], w, by rw [Job.withArtifacts_nil]; rfl, hw, .nil⟩
  | cons family rest ih =>
      obtain ⟨made, v, hfirst, hv, hmade⟩ :=
        renderTemplates_equipped hservices hstandard (standard_of_mem_templates family) m job hjob
          hw
      obtain ⟨more, w', hrest, hw', hall⟩ := ih (job.withArtifacts made) hjob hv
      refine ⟨made ++ more, w', ?_, hw', List.rel_append hmade hall⟩
      unfold renderFamilies
      rw [Step.bind_ok (ensureRunning_wired hservices), Step.bind_ok hfirst, hrest,
        Job.withArtifacts_withArtifacts]

end Wired

/-! ## Runs -/

/-- What a run does with its job once everything is rendered. -/
def deliver (p : Pipeline Workspace) (request : GenerationRequest) : Step Workspace Unit := do
  let organized ← p.organizeOutput request.options.projectName
  p.packOutput organized.root

/-- A run does not fail at rendering: it is rejected before it has a job, or its job gets an
artifact for every template of the families that the options ask for, and the run goes on with
what is done after that. -/
def RendersAll (p : Pipeline Workspace) (request : GenerationRequest) (w : Workspace) : Prop :=
  (∃ cause v, p.start request w = (.error cause, v) ∧
    p.generate request w = (.error (.rejected cause), v)) ∨
  ∃ job v made job' w' w'' result, p.start request w = (.ok job, v) ∧
    p.renderFamilies (Model.build request.form request.options job.request.requestedAt)
      (Family.enabled request.options) job v = ((.ok (), job.withArtifacts made), w') ∧
    List.Forall₂
      (MadeFrom (Model.build request.form request.options job.request.requestedAt))
      ((Family.enabled request.options).flatMap Family.templates) made ∧
    p.deliver request (job.withArtifacts made) w' = ((result, job'), w'') ∧
    p.generate request w = p.finish job' result w''

theorem start_equipped [Archive.Codec] {p : Pipeline Workspace} {organizer : Output.Organizer}
    (hservices : p.services = Workspace.services p.registry organizer)
    (hobservers : p.observers = []) {request : GenerationRequest} {w w' : Workspace} {job : Job}
    (hw : Equipped p.registry w) (h : p.start request w = (.ok job, w')) :
    job.state = .processing ∧ Equipped p.registry w' := by
  obtain ⟨rfl, hstate, -⟩ := start_ok hservices hobservers h
  exact ⟨hstate, hw.engine, hw.files⟩

/-- Every standard template renders with the model of every form under all options at all times,
and a run of the generator of a configuration without a manifest, in a workspace in which the
shipped sources are there, never fails at rendering. -/
theorem shipped_templates_render [Archive.Codec] :
    (∀ (form : FormDefinition) (options : GenerationOptions) (now : Calendar.Instant)
      (world : Template.Functions.World), ∀ e ∈ standardEntries,
        ∃ text, Renders world e.name (Model.build form options now) text) ∧
    ∀ {c : Config}, c.manifest = none → ∀ {known : FileSystem} {p : Pipeline Workspace},
      c.pipeline known = .ok p → ∀ {w : Workspace}, Equipped p.registry w →
        ∀ request, RendersAll p request w := by
  refine ⟨fun form options now world e he => exists_renders he world _, ?_⟩
  intro c hmanifest known p hpipeline w hw request
  obtain ⟨organizer, -, hobservers, -, hservices, hstandard⟩ := pipeline_eq_ok hmanifest hpipeline
  rcases hstart : p.start request w with ⟨cause | job, v⟩
  · refine .inl ⟨cause, v, hstart, ?_⟩
    unfold generate
    rw [run_bind hstart]
    rfl
  · obtain ⟨hjob, hv⟩ := start_equipped hservices hobservers hw hstart
    obtain ⟨made, w', hrender, -, hmade⟩ := renderFamilies_equipped hservices hstandard
      (Family.enabled request.options)
      (Model.build request.form request.options job.request.requestedAt) job hjob hv
    rcases hdeliver : p.deliver request (job.withArtifacts made) w' with ⟨⟨result, job'⟩, w''⟩
    have hprocess : p.process request job v = ((result, job'), w'') := by
      unfold process
      rw [Step.bind_ok (s := Step.job) rfl, Step.bind_ok hrender]
      exact hdeliver
    refine .inr ⟨job, v, made, job', w', w'', result, hstart, hrender, hmade, hdeliver, ?_⟩
    have hrun : (p.process request).run.run job v = ((result, job'), w'') := hprocess
    unfold generate
    rw [run_bind hstart]
    simp only []
    rw [run_bind hrun]

/-! ## The plan of a run -/

/-- What may become of a workspace before anything is laid out: its files stay as they are, and its
engine compiles none but shipped templates. -/
structure Prepares (w v : Workspace) : Prop where
  files : v.files = w.files
  engine : v.engine.HoldsAmong sources

theorem Prepares.equipped {r : Registry} {w v : Workspace} (h : Prepares w v)
    (hw : Equipped r w) : Equipped r v :=
  ⟨h.engine, h.files ▸ hw.files⟩

theorem mem_standardEntries_of_get {r : Registry} (hstandard : r.templates = latest standardEntries)
    {name : String} {e : TemplateEntry} (h : r.get name = .ok e) : e ∈ standardEntries := by
  have hget := Registry.get_eq_ok.mp h
  rw [hstandard, get?_latest] at hget
  exact hget.1.mem

theorem preserves_prepares [Archive.Codec] {p : Pipeline Workspace} {organizer : Output.Organizer}
    (hservices : p.services = Workspace.services p.registry organizer)
    (hobservers : p.observers = []) (hstandard : p.registry.templates = latest standardEntries)
    {w : Workspace} (hw : Equipped p.registry w) : p.Preserves (Prepares w) where
  render := by
    intro name entry hget model v hv
    obtain ⟨text, world, v', hrender, hv', -⟩ := render_equipped (hv.equipped hw)
      (mem_standardEntries_of_get hstandard hget) model
    have hkept : (Workspace.render p.registry entry model v).2.files = v.files := rfl
    rw [hservices]
    change Prepares w (Workspace.render p.registry entry model v).2
    rw [hrender] at hkept ⊢
    exact ⟨hkept.trans hv.files, hv'.engine⟩
  holdsFile _ _ hv := by rw [hservices]; exact hv
  isCancelled _ hv := by rw [hservices]; exact hv
  now _ hv := by rw [hservices]; exact ⟨hv.files, hv.engine⟩
  freshId _ hv := by rw [hservices]; exact hv
  observed observe hobserve := by simp [hobservers] at hobserve

/-- In every workspace in which the shipped sources are there, whatever its clock shows, the
generator of a configuration without a manifest follows its plan and lays out all that the plan
makes. -/
theorem shipped_run_follows_plan [Archive.Codec] {c : Config} (hmanifest : c.manifest = none)
    {known : FileSystem} {p : Pipeline Workspace} (hpipeline : c.pipeline known = .ok p)
    {w : Workspace} (hw : Equipped p.registry w) {request : GenerationRequest}
    (hform : request.validateForm = .ok ())
    (hrequest : ∀ now, (request.toJobRequest now).validate = .ok ()) :
    ∃ job cause?, (p.generate request w).1 = outcome job cause? ∧
      FollowsPlan p request w.files.isFile (fun e m => (Workspace.render p.registry e m w).1)
        (p.recorded.generate request ⟨w, []⟩).2.exchanges job cause? ∧
      deliveries (p.recorded.generate request ⟨w, []⟩).2.exchanges ≠ [] := by
  obtain ⟨organizer, -, hobservers, -, hservices, hstandard⟩ := pipeline_eq_ok hmanifest hpipeline
  have hnamed : ∀ name entry entity, p.registry.get name = .ok entry →
      Text.isBlankText (entry.outputFileName (Naming.entityName entity)) = false :=
    fun _ _ _ hget => outputFileName_given (mem_standardEntries_of_get hstandard hget) _
  have hfiles : ∀ path v, Prepares w v →
      (p.services.holdsFile path v).1 = w.files.isFile path := by
    intro path v hv
    rw [hservices, ← hv.files]
    rfl
  have hrender : ∀ {name entry}, p.registry.get name = .ok entry → ∀ model v, Prepares w v →
      (p.services.render entry model v).1 = (Workspace.render p.registry entry model w).1 := by
    intro name entry hget model v hv
    rw [hservices]
    exact render_alike (hv.equipped hw) hw (mem_standardEntries_of_get hstandard hget) model
  obtain ⟨-, -, htranscript⟩ := recorded_run
    (preserves_prepares hservices hobservers hstandard hw) request ⟨rfl, hw.engine⟩
  obtain ⟨job, cause?, houtcome, hplan⟩ :=
    htranscript.followsPlan hrender hnamed hfiles hform hrequest
  have hnever : ∀ v, (p.services.isCancelled v).1 = false := fun v => by rw [hservices]; rfl
  refine ⟨job, cause?, houtcome, hplan, hplan.reaches (hplan.uncancelled hnever) ?_⟩
  intro t ht
  obtain ⟨family, -, hfamily⟩ := List.mem_flatMap.mp (List.mem_of_mem_filter ht)
  obtain ⟨e, he, hname⟩ := standard_of_mem_templates family t hfamily
  obtain ⟨text, -, w', hrendered, -⟩ := render_equipped hw he
    (Model.build request.form request.options job.request.requestedAt)
  have hget : p.registry.get t.name = .ok e := by
    rw [Registry.get_eq_ok, hstandard, ← hname, get?_standardEntries e he]
  exact ⟨e, text, hget, by rw [hrendered]⟩

/-! ## A workspace with the shipped sources -/

/-- A configuration without a manifest. -/
def bareConfig : Config := ⟨"t", "g", "a", none, []⟩

/-- The folders of the shipped sources, each file holding its own name. -/
def sourcePlaces : FileSystem :=
  { nodes := (["t"], .folder) ::
      [("deployment", ["Dockerfile.tera", "appsettings.json.tera", "ci_pipeline.yml.tera",
          "project_file.csproj.tera"]),
        ("object_model", ["controller.cs.tera", "dto.cs.tera", "entity.cs.tera",
          "mapping_profile.cs.tera", "repository.cs.tera", "repository_interface.cs.tera",
          "validator.cs.tera"]),
        ("sql", ["create_table.sql.tera", "stored_procedures.sql.tera"]),
        ("tests", ["entity_tests.cs.tera"]),
        ("ui", ["form_component.tsx.tera", "list_component.tsx.tera", "types.ts.tera",
          "validation_schema.ts.tera"])].flatMap fun (folder, names) =>
            (["t", folder], .folder) :: names.map fun name =>
              (["t", folder, name], .file (Text.utf8Bytes (Path.join folder name)))
    working := [] }

/-- The text of the shipped source whose name is given. -/
def shippedText (name : List UInt8) : List UInt8 :=
  match (Text.ofUtf8? name).bind fun name => templateFiles.lookup name with
  | some text => Text.utf8Bytes text
  | none => []

/-- A workspace with the shipped sources and a clock that advances by a second. -/
def shippedSpace : Workspace :=
  { files := sourcePlaces.refill shippedText
    engine := Template.Engine.empty
    clock := ⟨⟨0, 0⟩, [⟨1, 0⟩]⟩
    environment := []
    nextId := ⟨5⟩ }

theorem equipped_shippedSpace {r : Registry} (hroot : r.root = "t") :
    Equipped r shippedSpace := by
  refine ⟨Template.Engine.holdsAmong_empty _, fun e he text htext => ?_⟩
  have hplaces : ∀ e ∈ standardEntries,
      sourcePlaces.stat (Path.join "t" e.source) = .ok (.file (Text.utf8Bytes e.source)) := by
    decide +kernel
  have hshipped : shippedText (Text.utf8Bytes e.source) = Text.utf8Bytes text := by
    unfold shippedText
    simp only [Text.ofUtf8?_utf8Bytes, Option.bind_some, htext]
  unfold Registry.sourceOf
  rw [hroot, ← hshipped]
  exact FileSystem.stat_refill shippedText sourcePlaces (hplaces e he)

theorem request_starts [Archive.Codec] {p : Pipeline Workspace} {organizer : Output.Organizer}
    (hservices : p.services = Workspace.services p.registry organizer)
    (hobservers : p.observers = []) {request : GenerationRequest}
    (hform : request.validateForm = .ok ())
    (hvalid : ∀ now, (request.toJobRequest now).validate = .ok ()) :
    ∃ job v, p.start request shippedSpace = (.ok job, v) := by
  unfold start Job.create
  rw [hform, hservices]
  simp only [hvalid]
  rw [run_bind (services_freshId ..), run_bind (services_now ..),
    run_bind (advance_eq hobservers _)]
  exact ⟨_, _, advance_eq hobservers _⟩

theorem tableRequest_starts [Archive.Codec] {p : Pipeline Workspace} {organizer : Output.Organizer}
    (hservices : p.services = Workspace.services p.registry organizer)
    (hobservers : p.observers = []) :
    ∃ job v, p.start tableRequest shippedSpace = (.ok job, v) := by
  have hvalid : (tableRequest.toJobRequest ⟨0, 0⟩).validate = .ok () := by decide
  exact request_starts hservices hobservers (by decide) fun _ => hvalid

theorem shippedSpace_renders :
    ∃ p job v, bareConfig.pipeline shippedSpace.files = .ok p ∧ Equipped p.registry shippedSpace ∧
      p.start tableRequest shippedSpace = (.ok job, v) ∧
      RendersAll p tableRequest shippedSpace := by
  have hroot : (match bareConfig.pipeline shippedSpace.files with
      | .ok p => p.registry.root == "t"
      | .error _ => false) = true := by
    decide
  cases hpipeline : bareConfig.pipeline shippedSpace.files with
  | error f => simp [hpipeline] at hroot
  | ok p =>
      rw [hpipeline] at hroot
      obtain ⟨organizer, -, hobservers, -, hservices, -⟩ := pipeline_eq_ok rfl hpipeline
      obtain ⟨job, v, hstart⟩ := tableRequest_starts hservices hobservers
      have hequipped := equipped_shippedSpace (eq_of_beq hroot)
      exact ⟨p, job, v, rfl, hequipped, hstart,
        shipped_templates_render.2 rfl hpipeline hequipped tableRequest⟩

end Pipeline

end FormScaffold
