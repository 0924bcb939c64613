import FormScaffold.Archive.Reader
import FormScaffold.Proofs.Archive.Packing
import FormScaffold.Proofs.Output.Organizing
import FormScaffold.Proofs.Pipeline.RenderingPlan
import FormScaffold.Proofs.Pipeline.WiredRun
import FormScaffold.Proofs.Registry.FileNames

/-!
# What a run delivers

A run of the generator of a configuration without a manifest renders standard templates.  Their
files have different names, so the organizer loses none of them even when all of them share one
folder, and the packer stores what the organizer has left.  `generate_delivers` puts the stages
together: the files below the output folder and the entries of the archive are exactly one for
each artifact and two about the folder.
-/

namespace FormScaffold.Pipeline

open Calendar Files Path Registry

/-! ## The stages of processing -/

/-- A run that is not stopped has rendered, laid out and packed, in this order. -/
structure Stages [Archive.Codec] (p : Pipeline Workspace) (organizer : Output.Organizer)
    (request : GenerationRequest) (job job' : Job) (w w' : Workspace)
    (organized : Output.Organized) (time : Instant) (output : JobOutput) : Prop where
  rendered : ∃ v, Rendered (Naming.entityName request.options.projectName)
    ((Family.enabled request.options).flatMap Family.templates) job job' w v
  laid : ∃ files, organizer.organize job'.artifacts request.options.projectName time w.files =
      (.ok organized, files) ∧
    ∃ later, Archive.create organized.root p.archiveDir later files = (.ok output.archive, w'.files)
  folder : output.folder = organized.root
  recorded : job'.output = some output

theorem onFiles_eq_ok {α : Type} {a : Action Failure α} {w w' : Workspace} {x : α}
    (h : Workspace.onFiles a w = (.ok x, w')) : a w.files = (.ok x, w'.files) := by
  change ((a w.files).1, { w with files := (a w.files).2 }) = _ at h
  simp only [Prod.mk.injEq] at h
  obtain ⟨hresult, rfl⟩ := h
  exact Prod.ext hresult rfl

/-- Looking at the clock before touches no file. -/
theorem onFilesNow_eq_ok {α : Type} {a : Instant → Action Failure α} {w w' : Workspace} {x : α}
    (h : Workspace.onFilesNow a w = (.ok x, w')) :
    ∃ now, a now w.files = (.ok x, w'.files) :=
  ⟨w.clock.now, onFiles_eq_ok (w := { w with clock := w.clock.advanced }) h⟩

section Wired

variable [Archive.Codec] {p : Pipeline Workspace} {organizer : Output.Organizer}
  (hservices : p.services = Workspace.services p.registry organizer)
  (hstandard : p.registry.templates = latest standardEntries)
  {request : GenerationRequest} {job job' : Job} {w w' : Workspace} {u : Unit}
include hservices

theorem organizeOutput_ok {project : String} {organized : Output.Organized}
    (h : p.organizeOutput project job w = ((.ok organized, job'), w')) :
    job = job' ∧ ∃ now, organizer.organize job.artifacts project now w.files =
      (.ok organized, w'.files) := by
  obtain ⟨u, j, v, hrunning, h⟩ := Step.bind_eq_ok h
  obtain ⟨rfl, rfl⟩ := ensureRunning_keeps hservices hrunning
  rw [Step.bind_ok (s := Step.job) rfl] at h
  obtain ⟨horganize, rfl⟩ := Step.attempt_eq_ok h
  rw [hservices] at horganize
  change Workspace.onFilesNow (organizer.organize job.artifacts project) w = _ at horganize
  exact ⟨rfl, onFilesNow_eq_ok horganize⟩

theorem packOutput_ok {folder : String} (h : p.packOutput folder job w = ((.ok u, job'), w')) :
    job'.artifacts = job.artifacts ∧ ∃ output now, output.folder = folder ∧
      job'.output = some output ∧
      Archive.create folder p.archiveDir now w.files = (.ok output.archive, w'.files) := by
  obtain ⟨u, j, v, hrunning, h⟩ := Step.bind_eq_ok h
  obtain ⟨rfl, rfl⟩ := ensureRunning_keeps hservices hrunning
  obtain ⟨archive, j, v, hcreate, h⟩ := Step.bind_eq_ok h
  obtain ⟨hcreated, rfl⟩ := Step.attempt_eq_ok hcreate
  obtain ⟨size, j, v', hsize, h⟩ := Step.bind_eq_ok h
  obtain ⟨hsized, rfl⟩ := Step.attempt_eq_ok hsize
  obtain ⟨hset, rfl⟩ := Step.update_eq_ok h
  rw [hservices] at hcreated hsized
  change Workspace.onFilesNow (Archive.create folder p.archiveDir) w = _ at hcreated
  change Workspace.onFiles (Archive.fileSize archive) v = _ at hsized
  obtain ⟨now, hcreated⟩ := onFilesNow_eq_ok hcreated
  obtain ⟨-, hkept⟩ := Action.query_eq_ok (onFiles_eq_ok hsized)
  obtain ⟨-, -, rfl⟩ := Job.setOutput_eq_ok.mp hset
  exact ⟨rfl, ⟨folder, archive, size⟩, now, rfl, rfl, by rw [hcreated, hkept]⟩

include hstandard

theorem process_ok (h : p.process request job w = ((.ok u, job'), w')) :
    ∃ organized time output, Stages p organizer request job job' w w' organized time output := by
  unfold process at h
  rw [Step.bind_ok (s := Step.job) rfl] at h
  obtain ⟨u, j₁, w₁, hrender, h⟩ := Step.bind_eq_ok h
  obtain ⟨organized, j₂, w₂, horganize, h⟩ := Step.bind_eq_ok h
  have hrendered := renderFamilies_ok hservices hstandard hrender
  obtain ⟨rfl, time, hlaid⟩ := organizeOutput_ok hservices horganize
  obtain ⟨hartifacts, output, later, hfolder, hrecorded, hpacked⟩ := packOutput_ok hservices h
  rw [hrendered.files, ← hartifacts] at hlaid
  refine ⟨organized, time, output, ⟨w₁, hrendered.files, ?_⟩, ⟨_, hlaid, later, hpacked⟩, hfolder,
    hrecorded⟩
  rw [hartifacts]
  exact hrendered.made

end Wired

/-! ## Before and after processing -/

theorem services_now [Archive.Codec] (r : Registry) (organizer : Output.Organizer) (w : Workspace) :
    (Workspace.services r organizer).now w =
      (w.clock.now, { w with clock := w.clock.advanced }) := rfl

theorem services_freshId [Archive.Codec] (r : Registry) (organizer : Output.Organizer)
    (w : Workspace) : (Workspace.services r organizer).freshId w = (w.nextId, w) := rfl

/-- Without observers a job is moved on in silence. -/
theorem advance_eq {ω : Type} {p : Pipeline ω} (hobservers : p.observers = [])
    (moved : Except Failure (Job × JobEvent)) {w : ω} :
    p.advance moved w = (moved.map Prod.fst, w) := by
  unfold advance notify
  rw [hobservers]
  rcases moved with f | ⟨job, event⟩ <;> rfl

section Unobserved

variable [Archive.Codec] {p : Pipeline Workspace} {organizer : Output.Organizer}
  (hservices : p.services = Workspace.services p.registry organizer) (hobservers : p.observers = [])
  {request : GenerationRequest} {job job' : Job} {w w' : Workspace}
include hservices hobservers

/-- A run that starts has a job that is being processed and made nothing yet; of the workspace it
has asked the clock only. -/
theorem start_ok (h : p.start request w = (.ok job, w')) :
    w' = { w with clock := w.clock.advanced } ∧ job.state = .processing ∧ job.artifacts = [] := by
  unfold start at h
  rw [hservices] at h
  cases hform : request.validateForm with
  | error f =>
      simp only [hform] at h
      cases h
  | ok u =>
      simp only [hform] at h
      rw [run_bind (services_freshId ..), run_bind (services_now ..),
        run_bind (advance_eq hobservers _)] at h
      unfold Job.create at h
      cases hvalid : (request.toJobRequest w.clock.now).validate with
      | error f =>
          simp only [hvalid, Except.map] at h
          cases h
      | ok u =>
          simp only [hvalid, Except.map] at h
          rw [advance_eq hobservers] at h
          cases h
          exact ⟨rfl, rfl, rfl⟩

theorem finish_ok {result : Except Failure Unit} (h : p.finish job result w = (.ok job', w')) :
    result = .ok () ∧ w'.files = w.files ∧ job'.artifacts = job.artifacts ∧
      job'.output = job.output := by
  unfold finish at h
  rw [hservices] at h
  rw [run_bind (services_now ..)] at h
  cases result with
  | error cause =>
      simp only [] at h
      rw [run_bind (advance_eq hobservers _)] at h
      cases hfailed : (job.fail w.clock.now cause.message).map Prod.fst <;>
        simp only [hfailed] at h <;> cases h
  | ok u =>
      simp only [] at h
      rw [run_bind (advance_eq hobservers _)] at h
      unfold Job.complete Job.whileProcessing at h
      cases hstate : job.state <;> simp only [hstate, Except.map] at h <;> cases h
      exact ⟨rfl, rfl, rfl, rfl⟩

theorem generate_ok (h : p.generate request w = (.ok job, w')) :
    ∃ job₀ v₀ job₁ v₁, v₀.files = w.files ∧ job₀.artifacts = [] ∧
      p.process request job₀ v₀ = ((.ok (), job₁), v₁) ∧ w'.files = v₁.files ∧
      job.artifacts = job₁.artifacts ∧ job.output = job₁.output := by
  unfold generate at h
  rcases hstart : p.start request w with ⟨f | job₀, v₀⟩
  · rw [run_bind hstart] at h
    cases h
  · rw [run_bind hstart] at h
    obtain ⟨hasked, -, hartifacts⟩ := start_ok hservices hobservers hstart
    have hfiles : v₀.files = w.files := by rw [hasked]
    rcases hprocess : p.process request job₀ v₀ with ⟨⟨result, job₁⟩, v₁⟩
    have hrun : (p.process request).run.run job₀ v₀ = ((result, job₁), v₁) := hprocess
    simp only [] at h
    rw [run_bind hrun] at h
    obtain ⟨rfl, hfiles', hartifacts', houtput⟩ := finish_ok hservices hobservers h
    exact ⟨job₀, v₀, job₁, v₁, hfiles, hartifacts, hprocess, hfiles', hartifacts', houtput⟩

end Unobserved

/-! ## Names of the files -/

/-- The path is one name, which is not that of a folder in an archive. -/
structure IsFileName (path : String) : Prop where
  names : names path = [path]
  relative : isAbsolute path = false
  file : Archive.isFolderName path = false
  given : path.toList ≠ []

theorem isFileName_of_shape {s : NameShape} (hs : s ∈ standardShapes ++ aboutShapes)
    {entity name : String} (hentity : '/' ∉ entity.toList)
    (hname : name.toList = s.fill entity.toList) : IsFileName name := by
  obtain ⟨hslash, hlength, hlast, hlast'⟩ := plain_of_shape hs hentity hname
  obtain ⟨hnames, hrelative, -⟩ := names_of_long hslash hlength
  refine ⟨hnames, hrelative, ?_, ?_⟩
  · unfold Archive.isFolderName
    simp [hlast, hlast']
  · intro hnil
    simp [hnil] at hlength

theorem isFileName_about :
    IsFileName Output.readmeFile ∧ IsFileName Output.ignoreFile :=
  ⟨⟨by decide, by decide, by decide, by decide⟩, ⟨by decide, by decide, by decide, by decide⟩⟩

/-- The files of standard templates have different names, which no folder has. -/
theorem standardFiles_apart {ts : List FamilyTemplate}
    (hts : ts.Sublist (Family.all.flatMap Family.templates)) {entity : String}
    (hentity : '/' ∉ entity.toList) {files : List String}
    (hfiles : ts.map (fun t => standardFile? entity t.name) = files.map some) :
    (files ++ [Output.readmeFile, Output.ignoreFile]).Nodup ∧ ∀ f ∈ files, IsFileName f := by
  have hsub := standardFiles_sublist hts hfiles
  constructor
  · have hall : (standardEntries.map (fun e => e.outputFileName entity) ++
        [Output.readmeFile, Output.ignoreFile]).Nodup := by
      refine List.Nodup.of_map String.toList ?_
      have := fileNames_nodup entity
      simpa [aboutShapes, NameShape.fill, Function.comp_def, Output.readmeFile,
        Output.ignoreFile] using this
    exact hall.sublist (hsub.append_right _)
  · intro f hf
    obtain ⟨e, he, rfl⟩ := List.mem_map.mp (hsub.subset hf)
    have hshape : (e.outputFileName entity).toList ∈
        standardShapes.map (NameShape.fill entity.toList) := by
      rw [← outputFileNames_standard]
      exact List.mem_map.mpr ⟨e, he, rfl⟩
    obtain ⟨s, hs, hfill⟩ := List.mem_map.mp hshape
    exact isFileName_of_shape (List.mem_append_left _ hs) hentity hfill.symm

/-! ## The delivery -/

/-- What a completed job has left on the disk: the files below its output folder are one for
each artifact, in the folder of the layout for its kind, and two about the folder, all in
different places; and the archive was written from these files, besides entries that stand for
folders, and has them when it is read, if the format restores what it was written from. -/
structure DeliveredFiles [Archive.Codec] (organizer : Output.Organizer) (project : String)
    (job : Job) (output : JobOutput) (fs : FileSystem)
    (files : List (Location × List UInt8)) : Prop where
  folder : output.folder = organizer.rootOf project
  placed : ∀ a ∈ job.artifacts, ∃ dir, organizer.layout.folderFor? a.kind = some dir ∧
    organizer.placeOf a = names (join dir a.filePath)
  expected : ∃ organized now, files =
    organizer.expectedFiles job.artifacts project organized now
  apart : (files.map Prod.fst).Nodup
  written : (fs.filesAt output.folder).Perm files
  packed : ∃ entries, fs.readBytes output.archive = .ok (Archive.Codec.encode entries) ∧
    (entries.filter fun e => !Archive.isFolderName e.name).Perm
      (files.map fun w => ⟨Archive.entryName w.1, w.2⟩) ∧
    (Archive.Restores (Archive.Codec.encode entries) entries →
      ∃ members, Archive.Codec.listing (Archive.Codec.encode entries) = .ok members ∧
        (members.filter fun m => !Archive.isFolderName m.name).Perm
          (files.map fun w => .ofEntry ⟨Archive.entryName w.1, w.2⟩))

section Organizer

variable {organizer : Output.Organizer} {artifacts : List Artifact}
  (hnames : ∀ a ∈ artifacts, IsFileName a.filePath)
include hnames

theorem placeOf_eq (htotal : ∀ kind, (organizer.layout.folderFor? kind).isSome = true)
    {a : Artifact} (ha : a ∈ artifacts) :
    ∃ dir, organizer.layout.folderFor? a.kind = some dir ∧
      organizer.placeOf a = names (join dir a.filePath) := by
  obtain ⟨dir, hdir⟩ := Option.isSome_iff_exists.mp (htotal a.kind)
  refine ⟨dir, hdir, ?_⟩
  rw [names_join (hnames a ha).relative]
  unfold Output.Organizer.placeOf Output.Organizer.folderOf
  rw [hdir, Option.getD_some]

/-- No file that is laid out is named like a folder in an archive. -/
theorem isFolderName_expected {project : String} {organized : Output.Organized} {time : Instant}
    {w : Location × List UInt8}
    (hw : w ∈ organizer.expectedFiles artifacts project organized time) :
    Archive.isFolderName (Archive.entryName w.1) = false := by
  obtain ⟨hreadme, hignore⟩ := isFileName_about
  rcases List.mem_append.mp hw with hw | hw
  · obtain ⟨a, ha, rfl⟩ := List.mem_map.mp hw
    have hname := hnames a ha
    unfold Output.Organizer.placeOf
    rw [hname.names, Archive.isFolderName_entryName _ hname.given]
    exact hname.file
  · simp only [List.mem_cons, List.not_mem_nil, or_false] at hw
    rcases hw with rfl | rfl
    · exact (Archive.isFolderName_entryName [] hreadme.given).trans hreadme.file
    · exact (Archive.isFolderName_entryName [] hignore.given).trans hignore.file

end Organizer

/-- What is laid out and then packed is delivered. -/
theorem delivered_of_stages [Archive.Codec] {organizer : Output.Organizer}
    (htotal : ∀ kind, (organizer.layout.folderFor? kind).isSome = true)
    {archiveDir : String} (hprotected : archiveDir ∈ organizer.protectedDirs)
    (hroot : ¬ Climbs organizer.outputRoot) (harchives : ¬ Climbs archiveDir)
    {project : String} {job : Job} {output : JobOutput} {fs laid fs' : FileSystem}
    (hfiles : fs.WellFormed) {organized : Output.Organized} {time later : Instant}
    (hnodup : (job.artifacts.map Artifact.filePath ++
      [Output.readmeFile, Output.ignoreFile]).Nodup)
    (hnames : ∀ a ∈ job.artifacts, IsFileName a.filePath)
    (hfolder : output.folder = organized.root)
    (horganize : organizer.organize job.artifacts project time fs = (.ok organized, laid))
    (hcreate : Archive.create organized.root archiveDir later laid = (.ok output.archive, fs')) :
    ∃ files, DeliveredFiles organizer project job output fs' files := by
  have hplain : ∀ a ∈ job.artifacts, names a.filePath = [a.filePath] :=
    fun a ha => (hnames a ha).names
  obtain ⟨hrootClimbs, hrootNames⟩ := organizer.rootOf_plain project hroot
  obtain ⟨hfound, hworking, hsorted, hoverlaps, hlaid⟩ :=
    Output.Organizer.organize_ok htotal hfiles hrootClimbs hrootNames hplain hnodup horganize
  rw [← hfound] at hlaid hoverlaps hrootClimbs
  rw [← hworking] at hlaid hoverlaps
  -- The archive is kept away from the folder, so that packing does not touch it.
  have hapart : ¬ Archive.Near (locationOf laid.working organized.root)
      (locationOf laid.working archiveDir) := by
    obtain ⟨hinto, hfrom⟩ := Output.Organizer.not_prefix_of_not_overlaps hrootClimbs harchives
      (hoverlaps archiveDir hprotected)
    rintro (hnear | hnear)
    · exact hfrom hnear
    · exact hinto hnear
  obtain ⟨-, hgrown, hresolve, packed, hgrown', hbytes⟩ :=
    Archive.create_ok hrootClimbs harchives hapart hcreate
  have hbelow : ∀ rel, Archive.Near (locationOf laid.working organized.root)
      (locationOf laid.working organized.root ++ rel) :=
    fun rel => Or.inr (List.prefix_append _ rel)
  have hpacked := (hgrown'.filesBelow hsorted hbelow).trans hlaid
  refine ⟨organizer.expectedFiles job.artifacts project organized time, hfolder.trans hfound,
    fun a ha => placeOf_eq hnames htotal ha, ⟨organized, time, rfl⟩,
    organizer.expectedPlaces_nodup project organized time hplain hnodup, ?_, _, hbytes, ?_⟩
  · rw [hfolder, FileSystem.filesAt_held hresolve]
    exact (hgrown.filesBelow hsorted hbelow).trans hlaid
  · have hentries : (((packed.below (locationOf laid.working organized.root)).map
        Archive.entryOf).filter fun e => !Archive.isFolderName e.name).Perm
          ((organizer.expectedFiles job.artifacts project organized time).map fun w =>
            ⟨Archive.entryName w.1, w.2⟩) := by
      rw [Archive.filter_entries fun w hw => isFolderName_expected hnames (hpacked.subset hw)]
      exact hpacked.map _
    refine ⟨hentries, fun hrestored => ⟨_, hrestored, ?_⟩⟩
    have hmembers := hentries.map Archive.Member.ofEntry
    rw [List.map_map] at hmembers
    rw [List.filter_map]
    exact hmembers

theorem organizer_eq_ok {c : Config} {organizer : Output.Organizer}
    (h : c.organizer = .ok organizer) :
    organizer.outputRoot = c.outputDir ∧
    (∀ kind, (organizer.layout.folderFor? kind).isSome = true) ∧
    c.archiveDir ∈ organizer.protectedDirs := by
  unfold Config.organizer at h
  split at h
  · rename_i o hcreated
    cases h
    unfold Output.Organizer.create at hcreated
    split at hcreated
    · cases hcreated
      refine ⟨rfl, fun kind => ?_, by simp [Output.Organizer.protect]⟩
      exact Output.Layout.insertAll_total Output.Layout.standard_total c.folders kind
    · cases hcreated
  · cases h

/-- Without folders of its own a configuration has the standard layout. -/
theorem layout_standard {c : Config} (hfolders : c.folders = []) {organizer : Output.Organizer}
    (h : c.organizer = .ok organizer) : organizer.layout = Output.Layout.standard := by
  unfold Config.organizer at h
  split at h
  · rename_i o hcreated
    cases h
    unfold Output.Organizer.create at hcreated
    split at hcreated
    · cases hcreated
      exact congrArg Output.Layout.standard.insertAll hfolders
    · cases hcreated
  · cases h

theorem pipeline_eq_ok [Archive.Codec] {c : Config} (hmanifest : c.manifest = none)
    {known : FileSystem} {p : Pipeline Workspace} (h : c.pipeline known = .ok p) :
    ∃ organizer, c.organizer = .ok organizer ∧ p.observers = [] ∧ p.archiveDir = c.archiveDir ∧
      p.services = Workspace.services p.registry organizer ∧
      p.registry.templates = latest standardEntries := by
  obtain ⟨registry, organizer, hregistry, horganizer, rfl⟩ := config_pipeline_iff.mp h
  unfold Config.registry at hregistry
  rw [hmanifest] at hregistry
  exact ⟨organizer, horganizer, rfl, rfl, rfl, templates_of_built hregistry⟩

/-- Whenever the generator of a configuration without a manifest, whose folders do not climb,
completes a job, the files below the job's output folder are one for each artifact of the job
and two about the folder, and so are the entries of the archive that stand for files. -/
theorem generate_delivers [Archive.Codec] {c : Config} (hmanifest : c.manifest = none)
    (hroot : ¬ Climbs c.outputDir) (harchives : ¬ Climbs c.archiveDir)
    {known : FileSystem} {p : Pipeline Workspace} (hpipeline : c.pipeline known = .ok p)
    {request : GenerationRequest} {w w' : Workspace} (hfiles : w.files.WellFormed) {job : Job}
    (hrun : p.generate request w = (.ok job, w')) :
    ∃ organizer output files, c.organizer = .ok organizer ∧ job.output = some output ∧
      DeliveredFiles organizer request.options.projectName job output w'.files files := by
  obtain ⟨organizer, horganizer, hobservers, hdir, hservices, hstandard⟩ :=
    pipeline_eq_ok hmanifest hpipeline
  obtain ⟨hout, htotal, hprotected⟩ := organizer_eq_ok horganizer
  obtain ⟨job₀, v₀, job₁, v₁, hkept, hempty, hprocess, hkept', hartifacts, houtput⟩ :=
    generate_ok hservices hobservers hrun
  obtain ⟨organized, time, output, hstages⟩ := process_ok hservices hstandard hprocess
  obtain ⟨v, hrendered⟩ := hstages.rendered
  obtain ⟨used, made, hused, hmade, hnames⟩ := hrendered.made
  obtain ⟨laid, horganize, later, hcreate⟩ := hstages.laid
  have hjob : made = job.artifacts := by rw [hartifacts, hmade, hempty, List.nil_append]
  subst hjob
  -- The files of the standard templates have different names, all of them plain.
  obtain ⟨hnodup, hplain⟩ := standardFiles_apart
    (hused.trans (enabled_templates_sublist request.options))
    (Naming.slash_not_mem_entityName request.options.projectName) hnames
  rw [← hartifacts, hkept] at horganize
  rw [hdir, ← hkept'] at hcreate
  rw [← hout] at hroot
  obtain ⟨files, hdelivered⟩ := delivered_of_stages htotal hprotected hroot harchives hfiles hnodup
    (fun a ha => hplain _ (List.mem_map_of_mem ha)) hstages.folder horganize hcreate
  exact ⟨organizer, output, files, horganizer, houtput.trans hstages.recorded, hdelivered⟩

/-- A configuration in which both scripts of a table go into the project's own folder. -/
def tableConfig : Config := ⟨"t", "g", "a", none, [(.sqlTable, ""), (.storedProcedure, "")]⟩

/-- A workspace with short templates for the scripts and a clock that advances by a second. -/
def tableSpace : Workspace :=
  { files := ⟨[(["t"], .folder), (["t", "sql"], .folder),
      (["t", "sql", "create_table.sql.tera"], .file [65]),
      (["t", "sql", "stored_procedures.sql.tera"], .file [66])], []⟩
    engine := Template.Engine.empty
    clock := ⟨⟨0, 0⟩, [⟨1, 0⟩]⟩
    environment := []
    nextId := ⟨5⟩ }

theorem tableConfig_delivered :
    ∃ p job w', tableConfig.pipeline tableSpace.files = .ok p ∧
      p.generate tableRequest tableSpace = (.ok job, w') ∧
      ∃ organizer output files, tableConfig.organizer = .ok organizer ∧
        job.output = some output ∧
        DeliveredFiles organizer tableRequest.options.projectName job output w'.files files := by
  have hcompletes : (match tableConfig.pipeline tableSpace.files with
      | .ok p => (p.generate tableRequest tableSpace).1.isOk
      | .error _ => false) = true := by
    decide +kernel
  cases hpipeline : tableConfig.pipeline tableSpace.files with
  | error f => simp [hpipeline] at hcompletes
  | ok p =>
      rw [hpipeline] at hcompletes
      rcases hrun : p.generate tableRequest tableSpace with ⟨f | job, w'⟩
      · simp [hrun, Except.isOk, Except.toBool] at hcompletes
      · exact ⟨p, job, w', rfl, hrun, generate_delivers rfl (by decide) (by decide) hpipeline
          (FileSystem.wellFormed_of_nodes (by decide) (by decide)) hrun⟩

end FormScaffold.Pipeline
