import FormScaffold.Output.Organizer
import FormScaffold.Proofs.Files.Contents
import Mathlib.Data.Option.Basic

/-!
# What organizing leaves

Giving a kind a folder changes the folder of that kind alone, so a layout that starts from the
standard one has a folder for every kind.

An organizer that succeeds has removed all that was in the project's folder and has written
one file for each artifact and two about the folder.  When the names of the files differ, the
files below the project's folder are exactly these, each with its content.
-/

namespace FormScaffold.Output.Layout

/-! ## Folders of a layout -/

/-- Pairs of keys with what belongs to them are looked up by what belongs to the key. -/
theorem lookup_filterMap_pairs {α β : Type} [BEq α] [LawfulBEq α] (g : α → Option β) {k : α}
    {ks : List α} (hk : k ∈ ks) :
    (ks.filterMap fun k => (g k).map fun v => (k, v)).lookup k = g k := by
  induction ks with
  | nil => cases hk
  | cons k' rest ih =>
      by_cases hsame : k = k'
      · subst hsame
        cases hvalue : g k with
        | none =>
            rw [List.filterMap_cons, hvalue]
            by_cases hmem : k ∈ rest
            · exact (ih hmem).trans hvalue
            · -- No later pair has the key either.
              simp only [Option.map_none]
              rw [List.lookup_eq_none_iff]
              intro pair hpair
              obtain ⟨j, hj, hsome⟩ := List.mem_filterMap.mp hpair
              obtain ⟨v, -, rfl⟩ := Option.map_eq_some_iff.mp hsome
              have hne : k ≠ j := by
                rintro rfl
                exact hmem hj
              simpa using hne
        | some v => simp [hvalue]
      · have hmem : k ∈ rest := by
          rcases List.mem_cons.mp hk with h | h
          · exact absurd h hsame
          · exact h
        have hother : (k == k') = false := by simpa using hsame
        cases hvalue : g k' with
        | none =>
            rw [List.filterMap_cons, hvalue]
            exact ih hmem
        | some v =>
            rw [List.filterMap_cons, hvalue]
            simp only [Option.map_some, List.lookup_cons, hother]
            exact ih hmem

theorem folderFor?_insert (l : Layout) (kind k : ArtifactKind) (folder : String) :
    (l.insert kind folder).folderFor? k = if k == kind then some folder else l.folderFor? k := by
  have hall : k ∈ ArtifactKind.all := by cases k <;> decide
  have hpairs : (fun k => if k == kind then some (k, folder)
      else (l.folderFor? k).map fun f => (k, f)) =
      fun k => (if k == kind then some folder else l.folderFor? k).map fun f => (k, f) := by
    funext k
    split <;> rfl
  unfold insert
  rw [hpairs]
  exact lookup_filterMap_pairs (fun k => if k == kind then some folder else l.folderFor? k) hall

/-- A layout with a folder for every kind keeps one when kinds are given folders. -/
theorem insertAll_total {l : Layout} (h : ∀ k, (l.folderFor? k).isSome = true)
    (overrides : List (ArtifactKind × String)) (k : ArtifactKind) :
    ((l.insertAll overrides).folderFor? k).isSome = true := by
  unfold insertAll
  induction overrides generalizing l with
  | nil => exact h k
  | cons pair rest ih =>
      refine ih fun k => ?_
      rw [folderFor?_insert]
      split
      · rfl
      · exact h k

theorem standard_total (k : ArtifactKind) : (standard.folderFor? k).isSome = true := by
  cases k <;> decide

end FormScaffold.Output.Layout

namespace FormScaffold.Output

open Calendar Files Path

namespace Organizer

/-! ## Overlaps -/

theorem absoluteComponents_eq {working : Location} {path : String} (hgiven : path ≠ "")
    (hclimbs : ¬ Climbs path) :
    absoluteComponents working path = .root :: (locationOf working path).map .name := by
  have hbody := body_eq_names hclimbs
  unfold absoluteComponents absolute locationOf
  rw [if_neg (by simpa using hgiven)]
  rcases components_cases path with ⟨habs, h⟩ | ⟨habs, h⟩ | ⟨habs, h⟩
  · simp [habs, h, hbody]
  · simp [habs, h, hbody]
  · simp only [habs, h, hbody]
    cases names path <;> simp

/-- Of two folders that do not overlap neither leads to the other. -/
theorem not_prefix_of_not_overlaps {working : Location} {a b : String} (ha : ¬ Climbs a)
    (hb : ¬ Climbs b) (h : overlaps working a b = false) :
    ¬ locationOf working a <+: locationOf working b ∧
      ¬ locationOf working b <+: locationOf working a := by
  unfold overlaps startsWith at h
  simp only [Bool.or_eq_false_iff] at h
  obtain ⟨hab, hba⟩ := h
  -- An empty path has no components, which every other path starts with.
  have hgivenA : a ≠ "" := by
    rintro rfl
    have hnil : absoluteComponents working "" = [] := rfl
    rw [hnil] at hba
    cases hba
  have hgivenB : b ≠ "" := by
    rintro rfl
    have hnil : absoluteComponents working "" = [] := rfl
    rw [hnil] at hab
    cases hab
  rw [absoluteComponents_eq hgivenA ha, absoluteComponents_eq hgivenB hb] at hab hba
  have hstarts : ∀ {k l : Location}, k <+: l →
      (Component.root :: k.map Component.name).isPrefixOf
        (Component.root :: l.map Component.name) = true := fun hinto =>
    List.isPrefixOf_iff_prefix.mpr (List.cons_prefix_cons.mpr ⟨rfl, hinto.map Component.name⟩)
  constructor
  · intro hinto
    rw [hstarts hinto] at hba
    cases hba
  · intro hinto
    rw [hstarts hinto] at hab
    cases hab

/-! ## The plan -/

/-- The folder of a kind below the folder of a project. -/
def folderOf (o : Organizer) (kind : ArtifactKind) : String := (o.layout.folderFor? kind).getD ""

/-- No folder of a layout leads out of the project's folder. -/
theorem folderOf_confined (o : Organizer) (kind : ArtifactKind) :
    isConfined (o.folderOf kind) = true := by
  unfold folderOf
  cases hfolder : o.layout.folderFor? kind with
  | none => decide
  | some folder =>
      obtain ⟨before, after, hfolders, -⟩ := List.lookup_eq_some_iff.mp hfolder
      have hsafe := o.layout_safe
      unfold Layout.validatePaths at hsafe
      split at hsafe
      · cases hsafe
      · rename_i hnone
        rw [List.find?_eq_none] at hnone
        have := hnone (kind, folder) (by rw [hfolders]; simp)
        simpa using this

/-- Where an artifact goes below the folder of its project. -/
def placeOf (o : Organizer) (a : Artifact) : Location :=
  names (o.folderOf a.kind) ++ names a.filePath

/-- The artifacts whose kind has a folder. -/
def mapped (o : Organizer) (artifacts : List Artifact) : List Artifact :=
  artifacts.filter fun a => (o.layout.folderFor? a.kind).isSome

theorem mapped_total {o : Organizer} (h : ∀ kind, (o.layout.folderFor? kind).isSome = true)
    (artifacts : List Artifact) : o.mapped artifacts = artifacts :=
  List.filter_eq_self.mpr fun a _ => h a.kind

/-- The path of an artifact below a folder. -/
def pathOf (o : Organizer) (root : String) (a : Artifact) : String :=
  join (join root (o.folderOf a.kind)) a.filePath

theorem targetOf_eq_ok {o : Organizer} {root : String} {a : Artifact} {target : Option String}
    (h : o.targetOf root a = .ok target) : isConfined a.filePath = true ∧
      (target.map fun path => (a, path)).toList =
        (o.mapped [a]).map fun a => (a, o.pathOf root a) := by
  unfold targetOf at h
  by_cases hconfined : isConfined a.filePath = true
  · rw [if_pos hconfined] at h
    cases h
    refine ⟨hconfined, ?_⟩
    unfold mapped pathOf folderOf
    cases hfolder : o.layout.folderFor? a.kind <;> simp [hfolder]
  · rw [if_neg hconfined] at h
    cases h

theorem targets_eq_ok {o : Organizer} {root : String} {artifacts : List Artifact}
    {targets : List (Artifact × String)} (h : o.targets root artifacts = .ok targets) :
    targets = (o.mapped artifacts).map (fun a => (a, o.pathOf root a)) ∧
      ∀ a ∈ artifacts, isConfined a.filePath = true := by
  induction artifacts generalizing targets with
  | nil =>
      cases h
      exact ⟨rfl, by simp⟩
  | cons a rest ih =>
      unfold Organizer.targets at h
      cases htarget : o.targetOf root a with
      | error f => simp [htarget] at h
      | ok target =>
          rw [htarget] at h
          cases hmore : o.targets root rest with
          | error f => simp [hmore] at h
          | ok more =>
              simp only [hmore, Except.ok.injEq] at h
              obtain ⟨hrest, hconfined⟩ := ih hmore
              obtain ⟨hown, hfirst⟩ := targetOf_eq_ok htarget
              refine ⟨?_, List.forall_mem_cons.mpr ⟨hown, hconfined⟩⟩
              rw [← h, hfirst, hrest, ← List.map_append]
              unfold mapped
              rw [← List.filter_append, List.singleton_append]

theorem plan_eq_ok {o : Organizer} {working : Location} {artifacts : List Artifact}
    {project root : String} {targets : List (Artifact × String)}
    (h : o.plan working artifacts project = .ok (root, targets)) :
    root = o.rootOf project ∧ o.targets (o.rootOf project) artifacts = .ok targets ∧
      ∀ dir ∈ o.protectedDirs, overlaps working (o.rootOf project) dir = false := by
  unfold plan at h
  simp only [] at h
  cases hfind : o.protectedDirs.find? (overlaps working (o.rootOf project)) with
  | some dir => simp [hfind] at h
  | none =>
      rw [hfind] at h
      cases htargets : o.targets (o.rootOf project) artifacts with
      | error f => simp [htargets] at h
      | ok targets' =>
          simp only [htargets, Except.ok.injEq, Prod.mk.injEq] at h
          obtain ⟨rfl, rfl⟩ := h
          rw [List.find?_eq_none] at hfind
          exact ⟨rfl, rfl, fun dir hdir => by simpa using hfind dir hdir⟩

/-- An organizer that refuses its plan has done nothing. -/
theorem organize_of_plan_error {o : Organizer} {artifacts : List Artifact} {project : String}
    {now : Instant} {fs : FileSystem} {f : Failure}
    (h : o.plan fs.working artifacts project = .error f) :
    o.organize artifacts project now fs = (.error f, fs) := by
  refine Action.bind_of_ok (x := fs.working) rfl (Action.bind_of_error ?_)
  rw [h]
  rfl

/-- What an organizer does once it has a plan. -/
def layOut (root : String) (targets : List (Artifact × String)) (project : String)
    (now : Instant) : Action Failure Organized := do
  clear root
  createFolders (foldersFor root targets)
  let files ← writeFiles targets
  let organized : Organized := ⟨root, files⟩
  writeAbout root readmeFile (readmeText project organized now)
  writeAbout root ignoreFile ignoreText
  pure organized

theorem organize_of_plan_ok {o : Organizer} {artifacts : List Artifact} {project root : String}
    {targets : List (Artifact × String)} (now : Instant) {fs : FileSystem}
    (h : o.plan fs.working artifacts project = .ok (root, targets)) :
    o.organize artifacts project now fs = layOut root targets project now fs := by
  refine Action.bind_of_ok (x := fs.working) rfl (Action.bind_of_ok (x := (root, targets)) ?_ rfl)
  rw [h]
  rfl

/-- An organizer that succeeds had a plan, and has carried it out. -/
theorem organize_eq_ok {o : Organizer} {artifacts : List Artifact} {project : String}
    {now : Instant} {fs fs' : FileSystem} {organized : Organized}
    (h : o.organize artifacts project now fs = (.ok organized, fs')) :
    (∀ a ∈ artifacts, isConfined a.filePath = true) ∧
    (∀ dir ∈ o.protectedDirs, overlaps fs.working (o.rootOf project) dir = false) ∧
    layOut (o.rootOf project)
      ((o.mapped artifacts).map fun a => (a, o.pathOf (o.rootOf project) a)) project now fs =
      (.ok organized, fs') := by
  cases hplan : o.plan fs.working artifacts project with
  | error f =>
      rw [organize_of_plan_error hplan] at h
      cases h
  | ok planned =>
      obtain ⟨root, targets⟩ := planned
      rw [organize_of_plan_ok now hplan] at h
      obtain ⟨rfl, htargets, hoverlaps⟩ := plan_eq_ok hplan
      obtain ⟨rfl, hconfined⟩ := targets_eq_ok htargets
      exact ⟨hconfined, hoverlaps, h⟩

/-- All steps of an organizer that succeeds have succeeded. -/
theorem layOut_eq_ok {root project : String} {targets : List (Artifact × String)} {now : Instant}
    {fs fs' : FileSystem} {organized : Organized}
    (h : layOut root targets project now fs = (.ok organized, fs')) :
    organized.root = root ∧ ∃ fs₁ fs₂ fs₃ fs₄, clear root fs = (.ok (), fs₁) ∧
      createFolders (foldersFor root targets) fs₁ = (.ok (), fs₂) ∧
      writeFiles targets fs₂ = (.ok organized.files, fs₃) ∧
      writeAbout root readmeFile (readmeText project organized now) fs₃ = (.ok (), fs₄) ∧
      writeAbout root ignoreFile ignoreText fs₄ = (.ok (), fs') := by
  obtain ⟨u, fs₁, hclear, h⟩ := Action.bind_eq_ok h
  obtain ⟨u, fs₂, hfolders, h⟩ := Action.bind_eq_ok h
  obtain ⟨files, fs₃, hwrites, h⟩ := Action.bind_eq_ok h
  obtain ⟨u, fs₄, hreadme, h⟩ := Action.bind_eq_ok h
  obtain ⟨u, fs₅, hignore, h⟩ := Action.bind_eq_ok h
  obtain ⟨rfl, rfl⟩ := Action.pure_eq_ok h
  exact ⟨rfl, fs₁, fs₂, fs₃, fs₄, hclear, hfolders, hwrites, hreadme, hignore⟩

/-- An artifact's path lands at its place below the folder of the project. -/
theorem landingOf_pathOf (o : Organizer) (working : Location) (root : String) {a : Artifact}
    (hconfined : isConfined a.filePath = true) :
    landingOf working (o.pathOf root a) = landingOf working root ++ o.placeOf a := by
  obtain ⟨hfolder, hfolderClimbs⟩ := of_isConfined (o.folderOf_confined a.kind)
  obtain ⟨hfile, hfileClimbs⟩ := of_isConfined hconfined
  unfold pathOf placeOf
  rw [landingOf_join working hfile hfileClimbs, landingOf_join working hfolder hfolderClimbs,
    List.append_assoc]

/-! ## Steps -/

/-- Clearing leaves nothing where the project's folder lands and below it, and all else as it is,
if something is there only when the folder is found. -/
theorem clear_landing {fs fs' : FileSystem} (hwell : fs.WellFormed) {root : String}
    (hne : landingOf fs.working root ≠ [])
    (hseen : fs.isPresent root = .ok false → fs.node? (landingOf fs.working root) = none)
    (h : clear root fs = (.ok (), fs')) :
    fs'.working = fs.working ∧ Sorted fs'.nodes ∧
    (∀ rel, fs'.node? (landingOf fs.working root ++ rel) = none) ∧
    ∀ l, ¬ landingOf fs.working root <+: l → fs'.node? l = fs.node? l := by
  unfold clear at h
  obtain ⟨present, fs₁, hquery, hrest⟩ := Action.bind_eq_ok h
  obtain ⟨hpresent, rfl⟩ := Action.query_eq_ok hquery
  cases present with
  | true =>
      rw [if_pos rfl] at hrest
      have hremoved := FileSystem.removeFolder_eq_ok (Action.change_eq_ok hrest)
      subst hremoved
      refine ⟨rfl, FileSystem.sorted_removeTree hwell.sorted _, fun rel => ?_, fun l hl => ?_⟩
      · exact FileSystem.node?_removeTree_of_prefix _ (by simp [hne]) (List.prefix_append _ _)
      · exact FileSystem.node?_removeTree_of_not_prefix _ hl
  | false =>
      obtain ⟨-, rfl⟩ := Action.pure_eq_ok hrest
      refine ⟨rfl, hwell.sorted, fun rel => ?_, fun _ _ => rfl⟩
      by_contra hheld
      exact hwell.above rel hheld (hseen hpresent)

/-- Clearing leaves nothing at the project's folder and below it, and all else as it is. -/
theorem clear_ok {fs fs' : FileSystem} (hwell : fs.WellFormed) {root : String}
    (hclimbs : ¬ Climbs root) (hnames : names root ≠ [])
    (h : clear root fs = (.ok (), fs')) :
    fs'.working = fs.working ∧ Sorted fs'.nodes ∧
    (∀ rel, fs'.node? (locationOf fs.working root ++ rel) = none) ∧
    ∀ l, ¬ locationOf fs.working root <+: l → fs'.node? l = fs.node? l := by
  have hgiven : root ≠ "" := by
    rintro rfl
    exact hnames rfl
  have hlanding := FileSystem.landingOf_eq_locationOf fs.working hclimbs
  rw [← hlanding]
  refine clear_landing hwell ?_ (hwell.node?_of_absent hclimbs hgiven) h
  rw [hlanding]
  simp [locationOf, hnames]

theorem createFolders_ok {fs fs' : FileSystem} {dirs : List String}
    (h : createFolders dirs fs = (.ok (), fs')) : Grown (fun _ => True) fs fs' := by
  induction dirs generalizing fs with
  | nil =>
      obtain ⟨-, rfl⟩ := Action.pure_eq_ok h
      exact .refl fs
  | cons dir rest ih =>
      obtain ⟨u, fs₁, hdir, hrest⟩ := Action.bind_eq_ok h
      have hgrown : Grown (fun _ => True) fs (fs.createFolders dir).1 :=
        Grown.of_createFolders fs dir
      rw [← Action.attempt_eq_ok hdir] at hgrown
      exact hgrown.trans (ih hrest)

/-- The first artifact is written, and then the others. -/
theorem writeFiles_cons_ok {fs fs' : FileSystem} {t : Artifact × String}
    {rest : List (Artifact × String)} {files : List OrganizedFile}
    (h : writeFiles (t :: rest) fs = (.ok files, fs')) :
    ∃ fs₁ more, fs.writeFile t.2 (Text.utf8Bytes t.1.content) = .ok fs₁ ∧
      writeFiles rest fs₁ = (.ok more, fs') ∧
      files = ⟨t.1.kind, t.2, t.1.filePath, t.1.size⟩ :: more := by
  obtain ⟨u, fs₁, hwrite, hmore⟩ := Action.bind_eq_ok h
  obtain ⟨more, fs₂, hrest, hpure⟩ := Action.bind_eq_ok hmore
  obtain ⟨rfl, rfl⟩ := Action.pure_eq_ok hpure
  exact ⟨fs₁, more, Action.change_eq_ok hwrite, hrest, rfl⟩

/-- The artifacts are written where their paths land. -/
theorem writeFiles_ok {fs fs' : FileSystem} {targets : List (Artifact × String)}
    {files : List OrganizedFile} (h : writeFiles targets fs = (.ok files, fs')) :
    fs' = fs.writeAll (targets.map fun t =>
      (landingOf fs.working t.2, Text.utf8Bytes t.1.content)) ∧
    files = targets.map fun t => ⟨t.1.kind, t.2, t.1.filePath, t.1.size⟩ := by
  induction targets generalizing fs files with
  | nil =>
      obtain ⟨rfl, rfl⟩ := Action.pure_eq_ok h
      exact ⟨rfl, rfl⟩
  | cons t rest ih =>
      obtain ⟨fs₁, more, hwrite, hrest, rfl⟩ := writeFiles_cons_ok h
      obtain ⟨rfl, -⟩ := FileSystem.writeFile_eq_ok hwrite
      obtain ⟨hfs, hfiles⟩ := ih hrest
      refine ⟨?_, by rw [hfiles, List.map_cons]⟩
      rw [hfs, List.map_cons, FileSystem.writeAll_cons, FileSystem.put_working]

/-- A name is joined onto a folder as one step. -/
theorem landingOf_name (working : Location) (root : String) {name : String}
    (hname : names name = [name] ∧ isAbsolute name = false ∧ ¬ Climbs name) :
    landingOf working (join root name) = landingOf working root ++ [name] := by
  obtain ⟨hnames, hrelative, hclimbs⟩ := hname
  rw [landingOf_join working hrelative hclimbs, hnames]

/-- A file about the folder is written below it. -/
theorem writeAbout_ok {fs fs' : FileSystem} {root name text : String}
    (hname : names name = [name] ∧ isAbsolute name = false ∧ ¬ Climbs name)
    (h : writeAbout root name text fs = (.ok (), fs')) :
    fs' = fs.put (landingOf fs.working root ++ [name]) (.file (Text.utf8Bytes text)) := by
  rw [← landingOf_name fs.working root hname]
  exact (FileSystem.writeFile_eq_ok (Action.change_eq_ok h)).1

/-- The names of the files about a folder are names. -/
theorem names_about : (names readmeFile = [readmeFile] ∧ isAbsolute readmeFile = false ∧
    ¬ Climbs readmeFile) ∧ names ignoreFile = [ignoreFile] ∧ isAbsolute ignoreFile = false ∧
    ¬ Climbs ignoreFile :=
  ⟨names_of_long (by decide) (by decide), names_of_long (by decide) (by decide)⟩

/-! ## The whole -/

/-- The files that a project folder is to hold: one for each artifact and two about it. -/
def expectedFiles (o : Organizer) (artifacts : List Artifact) (project : String)
    (organized : Organized) (now : Instant) : List (Location × List UInt8) :=
  artifacts.map (fun a => (o.placeOf a, Text.utf8Bytes a.content)) ++
    [([readmeFile], Text.utf8Bytes (readmeText project organized now)),
     ([ignoreFile], Text.utf8Bytes ignoreText)]

/-- Files with different last names are in different places. -/
theorem expectedPlaces_nodup (o : Organizer) {artifacts : List Artifact} (project : String)
    (organized : Organized) (now : Instant)
    (hplain : ∀ a ∈ artifacts, names a.filePath = [a.filePath])
    (hnodup : (artifacts.map Artifact.filePath ++ [readmeFile, ignoreFile]).Nodup) :
    ((o.expectedFiles artifacts project organized now).map Prod.fst).Nodup := by
  refine List.Nodup.of_map List.getLast? ?_
  have hlast : ((o.expectedFiles artifacts project organized now).map Prod.fst).map List.getLast? =
      (artifacts.map Artifact.filePath ++ [readmeFile, ignoreFile]).map some := by
    unfold expectedFiles
    simp only [List.map_append, List.map_map, List.map_cons, List.map_nil, List.getLast?_singleton]
    congr 1
    refine List.map_congr_left fun a ha => ?_
    simp [placeOf, hplain a ha]
  rw [hlast]
  exact hnodup.map (Option.some_injective _)

/-- Once the folders are made, an organizer that succeeds writes the files that the folder of the
project is to hold. -/
theorem layOut_writes {o : Organizer} {root project : String} {listed : List Artifact}
    {now : Instant} {fs fs' : FileSystem} {organized : Organized}
    (hconfined : ∀ a ∈ listed, isConfined a.filePath = true)
    (h : layOut root (listed.map fun a => (a, o.pathOf root a)) project now fs =
      (.ok organized, fs')) :
    organized.root = root ∧ ∃ fs₁ fs₂, clear root fs = (.ok (), fs₁) ∧
      createFolders (foldersFor root (listed.map fun a => (a, o.pathOf root a))) fs₁ =
        (.ok (), fs₂) ∧
      fs' = fs₂.writeAll ((o.expectedFiles listed project organized now).map fun w =>
        (landingOf fs₂.working root ++ w.1, w.2)) := by
  obtain ⟨hroot, fs₁, fs₂, fs₃, fs₄, hclear, hfolders, hwrites, hreadme, hignore⟩ :=
    layOut_eq_ok h
  obtain ⟨hfs₃, -⟩ := writeFiles_ok hwrites
  have hworking₃ : fs₃.working = fs₂.working := by rw [hfs₃, FileSystem.writeAll_working]
  have hlocations : listed.map (fun a => (landingOf fs₂.working (o.pathOf root a),
        Text.utf8Bytes a.content)) =
      listed.map fun a => (landingOf fs₂.working root ++ o.placeOf a,
        Text.utf8Bytes a.content) :=
    List.map_congr_left fun a ha => by rw [o.landingOf_pathOf _ _ (hconfined a ha)]
  refine ⟨hroot, fs₁, fs₂, hclear, hfolders, ?_⟩
  rw [writeAbout_ok names_about.2 hignore, writeAbout_ok names_about.1 hreadme,
    FileSystem.put_working, hworking₃, hfs₃]
  unfold expectedFiles
  rw [List.map_append, FileSystem.writeAll_append]
  simp only [List.map_map, Function.comp_def, hlocations]
  rfl

/-- An organizer that succeeds leaves in the folder of the project one file for each artifact
and two about the folder, and no other, and nothing else has changed but for new folders. -/
theorem organize_ok {o : Organizer} (htotal : ∀ kind, (o.layout.folderFor? kind).isSome = true)
    {artifacts : List Artifact} {project : String} {now : Instant} {fs fs' : FileSystem}
    {organized : Organized} (hwell : fs.WellFormed)
    (hclimbs : ¬ Climbs (o.rootOf project)) (hroot : names (o.rootOf project) ≠ [])
    (hplain : ∀ a ∈ artifacts, names a.filePath = [a.filePath])
    (hnodup : (artifacts.map Artifact.filePath ++ [readmeFile, ignoreFile]).Nodup)
    (h : o.organize artifacts project now fs = (.ok organized, fs')) :
    organized.root = o.rootOf project ∧ fs'.working = fs.working ∧ Sorted fs'.nodes ∧
    (∀ dir ∈ o.protectedDirs, overlaps fs.working (o.rootOf project) dir = false) ∧
    (fs'.filesBelow (locationOf fs.working (o.rootOf project))).Perm
      (o.expectedFiles artifacts project organized now) := by
  obtain ⟨hconfined, hoverlaps, h⟩ := organize_eq_ok h
  rw [mapped_total htotal] at h
  obtain ⟨hrootOf, fs₁, fs₂, hclear, hfolders, hwritten⟩ := layOut_writes hconfined h
  have hgrown := createFolders_ok hfolders
  obtain ⟨hworking₁, hsorted₁, hnone, -⟩ := clear_ok hwell hclimbs hroot hclear
  have hworking₂ : fs₂.working = fs.working := hgrown.working.trans hworking₁
  rw [hworking₂, FileSystem.landingOf_eq_locationOf fs.working hclimbs] at hwritten
  have hroot' : locationOf fs.working (o.rootOf project) ≠ [] := by
    simp [locationOf, hroot]
  refine ⟨hrootOf, ?_, ?_, hoverlaps, ?_⟩
  · rw [hwritten, FileSystem.writeAll_working, hworking₂]
  · rw [hwritten]
    exact FileSystem.sorted_writeAll (hgrown.sorted hsorted₁) _
  · rw [hwritten]
    refine FileSystem.filesBelow_writeAll (hgrown.sorted hsorted₁) hroot' (fun rel bytes => ?_)
      (o.expectedPlaces_nodup project _ now hplain hnodup) fun w hw => ?_
    · rcases hgrown.node (locationOf fs.working (o.rootOf project) ++ rel) trivial with
        hsame | ⟨-, hnew⟩
      · rw [hsame, hnone rel]
        simp
      · rw [hnew]
        simp
    · rcases List.mem_append.mp hw with hw | hw
      · obtain ⟨a, ha, rfl⟩ := List.mem_map.mp hw
        simp [placeOf, hplain a ha]
      · simp only [List.mem_cons, List.not_mem_nil, or_false] at hw
        rcases hw with rfl | rfl <;> simp

end Organizer

end FormScaffold.Output
