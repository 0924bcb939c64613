import FormScaffold.CommandLine.Run
import FormScaffold.Proofs.Pipeline.WiredRun
import FormScaffold.Proofs.Registry.Listing

/-!
# Calls that list and check templates

The call that lists the templates marks those whose source file is missing, and the call that
checks them reports the same ones.  A run leaves an optional template that is registered out
exactly if it is one of them.
-/

namespace FormScaffold

open Files

/-! ## Lists and counts -/

namespace Registry

/-- The lists of the categories and the counts agree with the templates that are registered. -/
structure Catalogues (r : Registry) : Prop where
  registered : ∀ e, e ∈ r.entries ↔ r.get e.name = .ok e
  once : r.entries.Nodup
  listed : (ArtifactCategory.all.flatMap r.inCategory).Perm r.entries
  category : ∀ c, ∀ e ∈ r.inCategory c, e.category = c
  order : ∀ c, (r.inCategory c).Pairwise fun a b =>
    a.priority < b.priority ∨ a.priority = b.priority ∧ a.name < b.name
  counted : ∀ c n, (c, n) ∈ r.countByCategory ↔
    n = (r.inCategory c).length ∧ r.inCategory c ≠ []
  counts : (r.countByCategory.map Prod.fst).Nodup
  total : (r.countByCategory.map Prod.snd).sum = r.size
  size : r.size = r.entries.length

theorem catalogues_of_describes {r : Registry} {entries : List TemplateEntry}
    (h : Describes r entries) : r.Catalogues where
  registered e := (h.get_self_iff e).symm
  once := nodup_entries h.order
  listed := inCategory_perm h.order
  category _ _ he := (mem_inCategory.mp he).2
  order _ := pairwise_mergeSort_ties TemplateEntry.priority (h.order.filter _)
  counted _ _ := mem_countByCategory
  counts := r.nodup_countByCategory
  total := (sum_countByCategory h.order).trans h.size.symm
  size := h.size

end Registry

/-! ## What a run leaves out -/

/-- A run leaves the template out: it is optional, and it is not at hand. -/
def Pipeline.Skips {ω : Type} (p : Pipeline ω) (t : FamilyTemplate) (w : ω) : Prop :=
  t.isOptional = true ∧ (p.isAvailable t.name w).1 = false

namespace CommandLine

/-! ## Listing and checking -/

/-- The line of a template, with a mark or without one. -/
def listedLine (marked : Bool) (e : TemplateEntry) : String :=
  "  " ++ Text.padRight 22 e.name ++ " " ++ Text.padRight 20 e.kind.tag ++ " " ++ e.outputPattern
    ++ (if marked then " (missing)" else "")

/-- The templates of each category that has some, below its heading, and their number. -/
def listing (r : Registry) (marked : TemplateEntry → Bool) : List String :=
  (ArtifactCategory.all.flatMap fun c =>
    if r.inCategory c = [] then []
    else (c.heading ++ ":") :: (r.inCategory c).map fun e => listedLine (marked e) e)
  ++ [toString r.size ++ " templates"]

/-- A check succeeds if nothing is missing, and otherwise reports what is. -/
structure Reports (missing : List (String × String)) (report : Report) : Prop where
  succeeds : report.failure = none ↔ missing = []
  lines : missing ≠ [] →
    report.lines = missing.map fun p => "missing: " ++ p.1 ++ " (" ++ p.2 ++ ")"

section Runs

variable {α β : Type} {space space' : Workspace}

/-- What follows a step that succeeds goes on from where the step ends. -/
theorem run_bind_of_ok {a : Running α} {f : α → Running β} {x : α}
    (h : a.run space = (.ok x, space')) : (a >>= f).run space = (f x).run space' := by
  change (match a.run space with
    | (r, next) => ExceptT.bindCont f r next) = _
  rw [h]
  rfl

end Runs

variable {config : Config} {space : Workspace} {r : Registry}

theorem currentFiles_run (space : Workspace) :
    currentFiles.run space = (.ok space.files, space) := rfl

theorem loadRegistry_run (h : config.registry space.files = .ok r) :
    (loadRegistry config).run space = (.ok r, space) := by
  unfold loadRegistry
  rw [run_bind_of_ok (currentFiles_run space), h]
  rfl

theorem categoryLines_eq (files : FileSystem) (r : Registry) (c : ArtifactCategory) :
    categoryLines files r c = if r.inCategory c = [] then []
      else (c.heading ++ ":") :: (r.inCategory c).map fun e =>
        listedLine (!r.isAvailable files e.name) e := by
  unfold categoryLines
  split
  next hnone => rw [if_pos hnone]
  next hsome =>
    rw [if_neg hsome]
    refine congrArg _ (List.map_congr_left fun e _ => ?_)
    unfold templateLine listedLine
    cases r.isAvailable files e.name <;> rfl

/-- The list of templates has all of them, with a mark at those that are not available. -/
theorem listTemplates_run (h : config.registry space.files = .ok r) :
    (listTemplates config).run space =
      (.ok (.success (listing r fun e => !r.isAvailable space.files e.name)), space) := by
  unfold listTemplates
  rw [run_bind_of_ok (loadRegistry_run h), run_bind_of_ok (currentFiles_run space)]
  unfold listing
  simp only [← categoryLines_eq]
  rfl

theorem validateTemplates_run (h : config.registry space.files = .ok r) :
    ∃ report, (validateTemplates config).run space = (.ok report, space) ∧
      Reports (r.missing space.files) report := by
  unfold validateTemplates
  rw [run_bind_of_ok (loadRegistry_run h), run_bind_of_ok (currentFiles_run space)]
  cases r.missing space.files with
  | nil => exact ⟨_, rfl, ⟨iff_of_true rfl rfl, fun hne => absurd rfl hne⟩⟩
  | cons p rest => exact ⟨_, rfl, ⟨iff_of_false nofun nofun, fun _ => rfl⟩⟩

theorem listing_congr {marked marked' : TemplateEntry → Bool}
    (h : ∀ e ∈ r.entries, marked e = marked' e) : listing r marked = listing r marked' := by
  have hlines : ∀ c, (r.inCategory c).map (fun e => listedLine (marked e) e) =
      (r.inCategory c).map fun e => listedLine (marked' e) e := fun c =>
    List.map_congr_left fun e he => by rw [h e (Registry.mem_inCategory.mp he).1]
  unfold listing
  simp only [hlines]

/-! ## The whole -/

/-- What is told of missing source files: the list marks the templates that the check reports, in
the order of their names, and the check succeeds if there are none. -/
structure Tells (config : Config) (space : Workspace) (r : Registry) (missing : List String) :
    Prop where
  lists : (listTemplates config).run space =
    (.ok (.success (listing r fun e => decide (e.name ∈ missing))), space)
  checks : ∃ report found, (validateTemplates config).run space = (.ok report, space) ∧
    Reports found report ∧ found.map Prod.fst = missing ∧
    ∀ p ∈ found, ∃ e, r.get p.1 = .ok e ∧ p.2 = r.sourceOf e

/-- What a run does with the templates that are registered: it leaves out those that are optional
and missing, and renders all others. -/
structure LeavesOut (p : Pipeline Workspace) (w : Workspace) (missing : List String) : Prop where
  skips : ∀ t : FamilyTemplate, p.registry.contains t.name = true →
    (p.Skips t w ↔ t.isOptional = true ∧ t.name ∈ missing)
  nothing : ∀ t model job, p.Skips t w → p.renderTemplate model t job w = ((.ok (), job), w)
  rendered : ∀ t model job, ¬ p.Skips t w →
    p.renderTemplate model t job w = p.renderEntry model t.name job w

theorem tells_missing {entries : List TemplateEntry} (h : r.Describes entries)
    (hregistry : config.registry space.files = .ok r) :
    Tells config space r ((r.missing space.files).map Prod.fst) where
  lists := by
    rw [listTemplates_run hregistry]
    refine congrArg (fun lines => (Except.ok (Report.success lines), space))
      (listing_congr fun e he => ?_)
    have hname : r.contains e.name = true := (h.contains e.name).mpr ⟨e, ((h.mem e).mp he).mem, rfl⟩
    rw [Bool.eq_iff_iff, Bool.not_eq_true', decide_eq_true_eq]
    exact Registry.isAvailable_eq_false_iff space.files h hname
  checks := by
    obtain ⟨report, hrun, hreports⟩ := validateTemplates_run hregistry
    refine ⟨report, _, hrun, hreports, rfl, fun p hp => ?_⟩
    obtain ⟨e, he, rfl⟩ := List.mem_map.mp hp
    exact ⟨e, (h.get_self_iff e).mpr (List.mem_filter.mp he).1, rfl⟩

theorem leavesOut_missing [Archive.Codec] {p : Pipeline Workspace} {organizer : Output.Organizer}
    (hservices : p.services = Workspace.services p.registry organizer)
    {entries : List TemplateEntry} (h : p.registry.Describes entries) (w : Workspace) :
    LeavesOut p w ((p.registry.missing w.files).map Prod.fst) := by
  have hskips (t : FamilyTemplate) : p.Skips t w ↔
      (t.isOptional && !p.registry.isAvailable w.files t.name) = true := by
    rw [Pipeline.Skips, Pipeline.isAvailable_wired hservices, Bool.and_eq_true, Bool.not_eq_true']
  refine ⟨fun t hname => ?_, fun t model job hskip => ?_, fun t model job hskip => ?_⟩
  · rw [← Registry.isAvailable_eq_false_iff w.files h hname, Pipeline.Skips,
      Pipeline.isAvailable_wired hservices]
  · rw [Pipeline.renderTemplate_wired hservices, if_pos ((hskips t).mp hskip)]
  · rw [Pipeline.renderTemplate_wired hservices, if_neg (mt (hskips t).mpr hskip)]

/-- Of a registry that is built, the lists of all categories together have each template once, in
order of priority and name, and the counts are their lengths.  On any files the list of templates
marks exactly those that the check reports, in the order of their names, and a run leaves out those
of them that are optional. -/
theorem missing_templates_listed_checked_and_left_out [Archive.Codec] {root : String}
    {entries : List TemplateEntry} (hbuilt : Registry.build root entries = .ok r) :
    r.Catalogues ∧ ∀ files : FileSystem, ∃ missing : List String,
      missing.Pairwise (· < ·) ∧
      (∀ name, name ∈ missing ↔
        ∃ e, r.get name = .ok e ∧ files.isFile (r.sourceOf e) = false) ∧
      (∀ config space, space.files = files → config.registry files = .ok r →
        Tells config space r missing) ∧
      ∀ config known p, Config.pipeline config known = .ok p → p.registry = r →
        ∀ w : Workspace, w.files = files → LeavesOut p w missing := by
  have h := Registry.describes_of_built hbuilt
  refine ⟨Registry.catalogues_of_describes h, fun files =>
    ⟨(r.missing files).map Prod.fst, ?_, fun name => ?_, ?_, ?_⟩⟩
  · exact Registry.pairwise_missing files h.order
  · exact Registry.mem_missing files h
  · rintro config space rfl hregistry
    exact tells_missing h hregistry
  · rintro config known p hpipeline rfl w rfl
    obtain ⟨registry, organizer, -, -, rfl⟩ := Pipeline.config_pipeline_iff.mp hpipeline
    exact leavesOut_missing rfl h w

/-- A configuration with the standard templates. -/
def plainConfig : Config := ⟨"t", "g", "a", none, []⟩

/-- A workspace that has the source file of one template only. -/
def oneTemplate : Workspace :=
  { files := ⟨[(["t"], .folder), (["t", "sql"], .folder),
      (["t", "sql", "create_table.sql.tera"], .file [65])], []⟩
    engine := Template.Engine.empty
    clock := ⟨⟨0, 0⟩, []⟩
    environment := []
    nextId := ⟨5⟩ }

/-- The template of the table has its file, and that of the settings, which is optional, is left
out. -/
theorem oneTemplate_told : ∃ p missing, plainConfig.pipeline oneTemplate.files = .ok p ∧
    Tells plainConfig oneTemplate p.registry missing ∧ LeavesOut p oneTemplate missing ∧
    "create_table" ∉ missing ∧ "app_settings" ∈ missing ∧
    p.Skips ⟨"app_settings", true⟩ oneTemplate := by
  have hbuilt := Registry.standard_built "t"
  have hregistry : plainConfig.registry oneTemplate.files =
      .ok ⟨"t", Registry.latest Registry.standardEntries⟩ := hbuilt
  have hfolders : plainConfig.organizer.toOption.isSome = true := by decide +kernel
  cases horganizer : plainConfig.organizer with
  | error f => simp [horganizer, Except.toOption] at hfolders
  | ok organizer =>
      obtain ⟨-, hfiles⟩ := missing_templates_listed_checked_and_left_out hbuilt
      obtain ⟨missing, -, hmem, htells, hleaves⟩ := hfiles oneTemplate.files
      have hpipeline := Pipeline.config_pipeline_iff.mpr ⟨_, organizer, hregistry, horganizer, rfl⟩
      have hout := hleaves plainConfig oneTemplate.files _ hpipeline rfl oneTemplate rfl
      have hget : ∀ name, ∀ e ∈ Registry.standardEntries, e.name = name →
          Registry.get ⟨"t", Registry.latest Registry.standardEntries⟩ name = .ok e := by
        rintro name e he rfl
        exact Registry.get_eq_ok.mpr (Registry.get?_standardEntries e he)
      have htable : Registry.get _ "create_table" = .ok (.ofKind "create_table" .sqlTable
          "sql/create_table.sql.tera" "\x7bEntityName\x7d_Table.sql" 10) :=
        hget _ _ (by decide) rfl
      have hsettings : Registry.get _ "app_settings" = .ok (.ofKind "app_settings" .appSettings
          "deployment/appsettings.json.tera" "appsettings.json" 40) := hget _ _ (by decide) rfl
      have hmissing : "app_settings" ∈ missing :=
        (hmem _).mpr ⟨_, hsettings, by decide⟩
      have hpresent : "create_table" ∉ missing := by
        rw [hmem]
        rintro ⟨e, he, hnone⟩
        obtain rfl := Except.ok.inj (htable.symm.trans he)
        exact absurd hnone (by decide)
      have hregistered : Registry.contains ⟨"t", Registry.latest Registry.standardEntries⟩
          "app_settings" = true := by
        rw [Registry.contains, Keyed.contains, Registry.get_eq_ok.mp hsettings]
        rfl
      exact ⟨_, missing, hpipeline, htells plainConfig oneTemplate rfl hregistry, hout, hpresent,
        hmissing, (hout.skips _ hregistered).mpr ⟨rfl, hmissing⟩⟩

end CommandLine

end FormScaffold
