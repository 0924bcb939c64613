import FormScaffold.Proofs.Files.Frame
import FormScaffold.Proofs.Output.ArchiveNames
import FormScaffold.Proofs.Output.Organizing

/-!
# Organizing stays in the project's folder

Whatever a project is called, whatever its artifacts' paths are and wherever the output goes, an
organizer changes nothing but the folder of the project, which lies right below the output folder,
and makes folders that are missing on the way to it.  An artifact whose path leads out of the
folder, and a folder that overlaps a protected one, are refused before anything is changed.
-/

namespace FormScaffold.Output

open Calendar Files Path

namespace Organizer

/-! ## Refusals -/

theorem targets_error {o : Organizer} {root : String} {artifacts : List Artifact} {f : Failure}
    (h : o.targets root artifacts = .error f) : ∃ text, f = .organize text := by
  induction artifacts with
  | nil => cases h
  | cons a rest ih =>
      unfold targets at h
      split at h
      · rename_i htarget
        unfold targetOf at htarget
        split at htarget <;> cases htarget
        cases h
        exact ⟨_, rfl⟩
      · split at h
        · rename_i hrest
          cases h
          exact ih hrest
        · cases h

theorem targets_refused (o : Organizer) (root : String) {artifacts : List Artifact}
    (h : ∃ a ∈ artifacts, isConfined a.filePath = false) :
    ∃ text, o.targets root artifacts = .error (.organize text) := by
  cases htargets : o.targets root artifacts with
  | ok targets =>
      obtain ⟨a, ha, hescapes⟩ := h
      rw [(targets_eq_ok htargets).2 a ha] at hescapes
      cases hescapes
  | error f =>
      obtain ⟨text, rfl⟩ := targets_error htargets
      exact ⟨text, rfl⟩

/-- A plan is refused if an artifact leads out of the project's folder or the folder overlaps a
protected one. -/
theorem plan_refused {o : Organizer} {working : Location} {artifacts : List Artifact}
    {project : String}
    (h : (∃ a ∈ artifacts, isConfined a.filePath = false) ∨
      ∃ dir ∈ o.protectedDirs, overlaps working (o.rootOf project) dir = true) :
    ∃ text, o.plan working artifacts project = .error (.organize text) := by
  unfold plan
  simp only []
  cases hfind : o.protectedDirs.find? (overlaps working (o.rootOf project)) with
  | some dir => exact ⟨_, rfl⟩
  | none =>
      rcases h with h | ⟨dir, hdir, hoverlaps⟩
      · obtain ⟨text, htargets⟩ := o.targets_refused (o.rootOf project) h
        exact ⟨text, by rw [htargets]⟩
      · rw [List.find?_eq_none] at hfind
        exact absurd hoverlaps (hfind dir hdir)

/-! ## Changes -/

theorem mem_addFolder {dir d : String} {dirs : List String} (h : d ∈ addFolder dir dirs) :
    d = dir ∨ d ∈ dirs := by
  induction dirs with
  | nil => exact Or.inl (List.mem_singleton.mp h)
  | cons other rest ih =>
      unfold addFolder at h
      split at h
      · exact Or.inr h
      · split at h
        · exact List.mem_cons.mp h
        · rcases List.mem_cons.mp h with rfl | h
          · exact Or.inr List.mem_cons_self
          · exact (ih h).imp_right (List.mem_cons_of_mem _)

theorem mem_foldl_addFolder {added dirs : List String} {d : String}
    (h : d ∈ added.foldl (fun dirs d => addFolder d dirs) dirs) : d ∈ added ∨ d ∈ dirs := by
  induction added generalizing dirs with
  | nil => exact Or.inr h
  | cons dir rest ih =>
      rcases ih h with h | h
      · exact Or.inl (List.mem_cons_of_mem _ h)
      · rcases mem_addFolder h with rfl | h
        · exact Or.inl List.mem_cons_self
        · exact Or.inr h

/-- The folders for a project are its own and those that hold its artifacts. -/
theorem mem_foldersFor {root d : String} {targets : List (Artifact × String)}
    (h : d ∈ foldersFor root targets) : d = root ∨ ∃ t ∈ targets, parent? t.2 = some d := by
  rcases mem_foldl_addFolder h with h | h
  · rcases List.mem_cons.mp h with rfl | h
    · exact Or.inl rfl
    · exact Or.inr (List.mem_filterMap.mp h)
  · cases h

variable {o : Organizer} {working : Location} {root : String}

/-- On the way to an artifact one is on the way to the project's folder, or above the artifact's
place in it. -/
theorem passes_pathOf {a : Artifact} {l : Location} (hconfined : isConfined a.filePath = true)
    (h : Passes working (o.pathOf root a) l) :
    Passes working root l ∨ ∃ k, k <+: o.placeOf a ∧ l = landingOf working root ++ k := by
  obtain ⟨hfolder, hfolderClimbs⟩ := of_isConfined (o.folderOf_confined a.kind)
  obtain ⟨hfile, hfileClimbs⟩ := of_isConfined hconfined
  rcases h.join_cases hfile hfileClimbs with h | ⟨k, hk, rfl⟩
  · refine (h.join_cases hfolder hfolderClimbs).imp_right ?_
    rintro ⟨k, hk, rfl⟩
    exact ⟨k, hk.trans (List.prefix_append _ _), rfl⟩
  · rw [landingOf_join working hfolder hfolderClimbs, List.append_assoc]
    exact Or.inr ⟨_, (List.prefix_append_right_inj _).mpr hk, rfl⟩

theorem clear_keeps (working : Location) (root : String) :
    Action.Keeps working (landingOf working root) (Passes working root) (clear root) := by
  unfold clear
  refine (Action.keeps_query _ _).bind fun present => ?_
  split
  · refine Action.keeps_change _ fun fs fs' hworking hremoved => ?_
    rw [FileSystem.removeFolder_eq_ok hremoved, hworking]
    exact .of_removeTree
  · exact Action.keeps_pure ()

theorem createFolders_keeps {ways : Location → Prop} {dirs : List String} {inside : Location}
    (hplaces : ∀ d ∈ dirs, ∀ step ∈ stepsTo d,
      ways (landingOf working step) ∨ inside <+: landingOf working step) :
    Action.Keeps working inside ways (createFolders dirs) := by
  induction dirs with
  | nil => exact Action.keeps_pure ()
  | cons d rest ih =>
      refine (Action.keeps_attempt _ fun fs hworking => ?_).bind fun _ =>
        ih fun d' hd' => hplaces d' (List.mem_cons_of_mem _ hd')
      refine .of_createFolders fs fun step hstep => ?_
      rw [hworking]
      exact hplaces d List.mem_cons_self step hstep

theorem writeFiles_keeps {ways : Location → Prop} {targets : List (Artifact × String)}
    {inside : Location} (hplaces : ∀ t ∈ targets, inside <+: landingOf working t.2) :
    Action.Keeps working inside ways (writeFiles targets) := by
  induction targets with
  | nil => exact Action.keeps_pure []
  | cons t rest ih =>
      refine (Action.keeps_change _ fun fs fs' hworking hwritten => ?_).bind fun _ =>
        (ih fun t' ht' => hplaces t' (List.mem_cons_of_mem _ ht')).bind fun _ =>
          Action.keeps_pure _
      rw [(FileSystem.writeFile_eq_ok hwritten).1, hworking]
      exact .of_put (hplaces t List.mem_cons_self) _

theorem writeAbout_keeps {ways : Location → Prop} {name : String} (text : String)
    (hname : names name = [name] ∧ isAbsolute name = false ∧ ¬ Climbs name) :
    Action.Keeps working (landingOf working root) ways (writeAbout root name text) := by
  refine Action.keeps_change _ fun fs fs' hworking hwritten => ?_
  rw [(FileSystem.writeFile_eq_ok hwritten).1, hworking, landingOf_name working root hname]
  exact .of_put (List.prefix_append _ _) _

theorem layOut_keeps {targets : List (Artifact × String)}
    (htargets : ∀ t ∈ targets, ∃ a, t.2 = o.pathOf root a ∧ isConfined a.filePath = true)
    (project : String) (now : Instant) :
    Action.Keeps working (landingOf working root) (Passes working root)
      (layOut root targets project now) := by
  have hsteps : ∀ d ∈ foldersFor root targets, ∀ step ∈ stepsTo d,
      Passes working root (landingOf working step) ∨
        landingOf working root <+: landingOf working step := by
    intro d hd step hstep
    rcases mem_foldersFor hd with rfl | ⟨t, ht, hparent⟩
    · exact Or.inl ((leadsInto_of_mem_stepsTo hstep).passes working)
    · obtain ⟨a, hpath, hconfined⟩ := htargets t ht
      have hpasses := (leadsInto_of_mem_stepsTo_parent hparent hstep).passes working
      rw [hpath] at hpasses
      refine (passes_pathOf hconfined hpasses).imp_right ?_
      rintro ⟨k, -, hk⟩
      rw [hk]
      exact List.prefix_append _ _
  have hplaces : ∀ t ∈ targets, landingOf working root <+: landingOf working t.2 := by
    intro t ht
    obtain ⟨a, hpath, hconfined⟩ := htargets t ht
    rw [hpath, o.landingOf_pathOf working root hconfined]
    exact List.prefix_append _ _
  exact (clear_keeps working root).bind fun _ =>
    (createFolders_keeps hsteps).bind fun _ =>
    (writeFiles_keeps hplaces).bind fun files =>
    (writeAbout_keeps _ names_about.1).bind fun _ =>
    (writeAbout_keeps _ names_about.2).bind fun _ =>
    Action.keeps_pure _

/-- Whatever comes of it, organizing changes the folder of the project and makes folders on the
way to it, and changes nothing else. -/
theorem organize_keeps (o : Organizer) (artifacts : List Artifact) (project : String)
    (now : Instant) (fs : FileSystem) :
    Within (landingOf fs.working (o.rootOf project)) (Passes fs.working (o.rootOf project)) fs
      (o.organize artifacts project now fs).2 := by
  cases hplan : o.plan fs.working artifacts project with
  | error f =>
      rw [organize_of_plan_error hplan]
      exact .refl fs
  | ok planned =>
      obtain ⟨root, targets⟩ := planned
      rw [organize_of_plan_ok now hplan]
      obtain ⟨rfl, htargets, -⟩ := plan_eq_ok hplan
      obtain ⟨rfl, hconfined⟩ := targets_eq_ok htargets
      refine layOut_keeps (o := o) (fun t ht => ?_) project now fs rfl
      obtain ⟨a, ha, rfl⟩ := List.mem_map.mp ht
      exact ⟨a, rfl, hconfined a (List.mem_of_mem_filter ha)⟩

/-- The folder of a project is one name below where the output folder lands. -/
theorem landingOf_rootOf (o : Organizer) (working : Location) (project : String) :
    landingOf working (o.rootOf project) =
      landingOf working o.outputRoot ++ [folderName project] :=
  landingOf_name working o.outputRoot (names_folderName project)

/-- The path of a project leads right below the output folder, if it leads anywhere.  Organizing
changes what is there and below, and makes folders where nothing was on the way to it; if the
output folder is given without `..`, these lie above it.  Nothing at all is changed if some
artifact's path is absolute or climbs, or if a protected folder overlaps the project's. -/
theorem organize_confined (o : Organizer) (artifacts : List Artifact) (project : String)
    (now : Instant) (fs : FileSystem) :
    (∀ fs' : FileSystem, fs'.working = fs.working →
      ∀ place, fs'.resolve (o.rootOf project) = .ok place →
        place.location = landingOf fs.working o.outputRoot ++ [folderName project]) ∧
    Within (landingOf fs.working o.outputRoot ++ [folderName project])
      (Passes fs.working (o.rootOf project)) fs (o.organize artifacts project now fs).2 ∧
    (¬ Climbs o.outputRoot → ∀ l, Passes fs.working (o.rootOf project) l →
      l <+: landingOf fs.working o.outputRoot ++ [folderName project]) ∧
    ((∃ a ∈ artifacts, isAbsolute a.filePath = true ∨ Climbs a.filePath) ∨
        (∃ dir ∈ o.protectedDirs, overlaps fs.working (o.rootOf project) dir = true) →
      ∃ text, o.organize artifacts project now fs = (.error (.organize text), fs)) := by
  rw [← o.landingOf_rootOf]
  refine ⟨fun fs' hworking place hplace => ?_, o.organize_keeps artifacts project now fs, ?_, ?_⟩
  · rw [FileSystem.resolve_lands hplace, hworking]
  · intro hclimbs l hpasses
    exact hpasses.above (o.rootOf_plain project hclimbs).1
  · intro hrefused
    have hplan : ∃ text, o.plan fs.working artifacts project = .error (.organize text) := by
      refine plan_refused (hrefused.imp_left fun ⟨a, ha, hescapes⟩ => ⟨a, ha, ?_⟩)
      rw [Bool.eq_false_iff, ne_eq, isConfined_iff, not_and_or, not_not]
      exact hescapes.imp_left fun habsolute => by simp [habsolute]
    obtain ⟨text, hplan⟩ := hplan
    exact ⟨text, organize_of_plan_error hplan⟩

/-- The folders of the standard layout lead nowhere out of a project. -/
theorem standard_safe : Layout.standard.validatePaths = .ok () := by decide

/-- An output folder that is reached through a folder next to it. -/
def besideMissing : Organizer := ⟨"/out/missing/..", Layout.standard, [], standard_safe⟩

example : besideMissing.rootOf "Lead" = "/out/missing/../Lead" := by decide +kernel

/-- The folder that the output folder is reached through is made, although it does not lie above
the folder of the project. -/
theorem besideMissing_makes_sibling :
    landingOf FileSystem.empty.working (besideMissing.rootOf "Lead") = ["out", "Lead"] ∧
    FileSystem.empty.node? ["out", "missing"] = none ∧
    (besideMissing.organize [] "Lead" ⟨0, 0⟩ FileSystem.empty).2.node? ["out", "missing"] =
      some .folder ∧
    ¬ ["out", "Lead"] <+: ["out", "missing"] ∧ ¬ ["out", "missing"] <+: ["out", "Lead"] := by
  refine ⟨by decide +kernel, by decide, by decide +kernel, by decide, by decide⟩

end Organizer

end FormScaffold.Output

/-!
## Protected folders are spared

Clearing the folder of a project cannot reach a folder that the project's neither holds nor lies
in.  The guard compares the components of absolute paths.  When the paths have no `..` that
decides where they lead, and a run that is not refused keeps each file below a protected folder.
With `..` the guard misses an overlap that the file system sees.
-/

namespace FormScaffold.Output

open Calendar Files Path

namespace Organizer

/-- The refusal to touch a protected folder. -/
def overlapFailure (o : Organizer) (project dir : String) : Failure :=
  .organize ("Output folder " ++ o.rootOf project ++ " overlaps the protected directory " ++ dir)

/-- Unless it refuses to touch a protected folder, an organizer has found no overlap. -/
theorem not_overlaps_of_organize {o : Organizer} {artifacts : List Artifact} {project : String}
    {now : Instant} {fs : FileSystem}
    (h : ∀ dir ∈ o.protectedDirs,
      (o.organize artifacts project now fs).1 ≠ .error (o.overlapFailure project dir)) :
    ∀ dir ∈ o.protectedDirs, overlaps fs.working (o.rootOf project) dir = false := by
  intro dir hdir
  cases hfind : o.protectedDirs.find? (overlaps fs.working (o.rootOf project)) with
  | none =>
      rw [List.find?_eq_none] at hfind
      simpa using hfind dir hdir
  | some found =>
      have hplan : o.plan fs.working artifacts project =
          .error (o.overlapFailure project found) := by
        unfold plan
        simp only [hfind]
        rfl
      have hrefused := h found (List.mem_of_find?_eq_some hfind)
      rw [organize_of_plan_error hplan] at hrefused
      exact absurd rfl hrefused

/-- Organizing keeps the files below a location that neither holds the folder of the project nor
lies in it. -/
theorem organize_keeps_file (o : Organizer) (artifacts : List Artifact) (project : String)
    (now : Instant) {fs : FileSystem} {l rel : Location} {bytes : List UInt8}
    (hholds : ¬ l <+: landingOf fs.working (o.rootOf project))
    (hlies : ¬ landingOf fs.working (o.rootOf project) <+: l)
    (h : fs.node? (l ++ rel) = some (.file bytes)) :
    (o.organize artifacts project now fs).2.node? (l ++ rel) = some (.file bytes) := by
  have houtside : ¬ landingOf fs.working (o.rootOf project) <+: l ++ rel := fun hinto =>
    (List.prefix_or_prefix_of_prefix hinto (List.prefix_append l rel)).elim hlies hholds
  rcases (o.organize_keeps artifacts project now fs).outside _ houtside with hsame | ⟨-, hnone, -⟩
  · rw [hsame, h]
  · rw [h] at hnone
    cases hnone

/-- Unless a run is refused for an overlap, the folder of the project neither holds a protected
folder nor lies in it, and each file below the protected folder is there afterwards with the same
bytes, provided that output folder and protected folder are given without `..`. -/
theorem organize_spares_protected (o : Organizer) (artifacts : List Artifact) (project : String)
    (now : Instant) (fs : FileSystem)
    (hrefused : ∀ dir ∈ o.protectedDirs,
      (o.organize artifacts project now fs).1 ≠ .error (o.overlapFailure project dir))
    (hroot : ¬ Climbs o.outputRoot) {dir : String} (hdir : dir ∈ o.protectedDirs)
    (hclimbs : ¬ Climbs dir) :
    ¬ landingOf fs.working dir <+: landingOf fs.working (o.rootOf project) ∧
    ¬ landingOf fs.working (o.rootOf project) <+: landingOf fs.working dir ∧
    ∀ rel bytes, fs.node? (landingOf fs.working dir ++ rel) = some (.file bytes) →
      (o.organize artifacts project now fs).2.node? (landingOf fs.working dir ++ rel) =
        some (.file bytes) := by
  have hrootOf := (o.rootOf_plain project hroot).1
  have hoverlaps := not_overlaps_of_organize hrefused dir hdir
  obtain ⟨hlies, hholds⟩ := not_prefix_of_not_overlaps hrootOf hclimbs hoverlaps
  rw [← FileSystem.landingOf_eq_locationOf fs.working hrootOf,
    ← FileSystem.landingOf_eq_locationOf fs.working hclimbs] at hlies hholds
  exact ⟨hholds, hlies, fun rel bytes h =>
    o.organize_keeps_file artifacts project now hholds hlies h⟩

/-- An output folder with a project in it and next to that a protected folder. -/
def neighbours : FileSystem :=
  ⟨[(["out"], .folder), (["out", "Lead"], .folder), (["out", "Lead", "old.txt"], .file [107]),
    (["out", "keep"], .folder), (["out", "keep", "a.zip"], .file [122])], []⟩

/-- An organizer that protects one folder. -/
def protecting (dir : String) : Organizer :=
  ⟨"/out", Layout.standard, [dir], standard_safe⟩

example : overlaps [] ((protecting "/out/./keep").rootOf "Lead") "/out/./keep" = false := by
  decide +kernel

theorem neighbours_spared :
    (∀ dir ∈ (protecting "/out/./keep").protectedDirs,
      ((protecting "/out/./keep").organize [] "Lead" ⟨0, 0⟩ neighbours).1 ≠
        .error ((protecting "/out/./keep").overlapFailure "Lead" dir)) ∧
    ((protecting "/out/./keep").organize [] "Lead" ⟨0, 0⟩ neighbours).2.node?
      ["out", "keep", "a.zip"] = some (.file [122]) := by
  have hrefused : ∀ dir ∈ (protecting "/out/./keep").protectedDirs,
      ((protecting "/out/./keep").organize [] "Lead" ⟨0, 0⟩ neighbours).1 ≠
        .error ((protecting "/out/./keep").overlapFailure "Lead" dir) := by
    decide +kernel
  exact ⟨hrefused, (organize_spares_protected (protecting "/out/./keep") [] "Lead" ⟨0, 0⟩ neighbours
    hrefused (by decide) List.mem_cons_self (by decide)).2.2 ["a.zip"] [122] (by decide)⟩

/-- A protected folder that is given with `..` leads to the folder of the project, which is
cleared all the same. -/
theorem neighbours_not_spared :
    neighbours.resolve "/out/keep/../Lead" = .ok (.held ["out", "Lead"] .folder) ∧
    landingOf neighbours.working ((protecting "/out/keep/../Lead").rootOf "Lead") =
      ["out", "Lead"] ∧
    neighbours.node? ["out", "Lead", "old.txt"] = some (.file [107]) ∧
    ((protecting "/out/keep/../Lead").organize [] "Lead" ⟨0, 0⟩ neighbours).1 =
      .ok ⟨"/out/Lead", []⟩ ∧
    ((protecting "/out/keep/../Lead").organize [] "Lead" ⟨0, 0⟩ neighbours).2.node?
      ["out", "Lead", "old.txt"] = none := by
  refine ⟨by decide +kernel, by decide +kernel, by decide, by decide +kernel, by decide +kernel⟩

end Organizer

end FormScaffold.Output
