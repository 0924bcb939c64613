import FormScaffold.Proofs.Output.Listing

/-!
# A run replaces the one before it

What an organizer leaves below the folder of a project is told by the project alone: the files
that it writes, and the folders above them.  Two runs for the same project therefore leave the
same tree whatever was there before, except for the line of the description that tells the time.

The folder is cleared only if it is found.  An output folder that is reached with `..` through a
folder that is missing is not found, although it is there, and what it holds is kept.
-/

namespace FormScaffold.Output

open Calendar Files Path

/-! ## Trees of written files -/

/-- What writing files leaves in an empty folder: each file as it was written last, and the
folders above the files. -/
def treeOf (writes : List (Location × List UInt8)) (rel : Location) : Option Node :=
  ((writes.reverse.lookup rel).map .file).or
    (if writes.any fun w => rel.isPrefixOf w.1 then some .folder else none)

/-- A location below a folder is looked up among writes there as it is among the writes seen from
the folder. -/
theorem lookup_below (l rel : Location) (writes : List (Location × List UInt8)) :
    (writes.map fun w => (l ++ w.1, w.2)).lookup (l ++ rel) = writes.lookup rel := by
  induction writes with
  | nil => rfl
  | cons w rest ih =>
      rw [List.map_cons, List.lookup_cons, List.lookup_cons, ih]
      by_cases h : rel = w.1
      · simp [h]
      · have hother : ¬ l ++ rel = l ++ w.1 := fun heq => h (List.append_cancel_left heq)
        simp only [beq_eq_false_iff_ne.mpr h, beq_eq_false_iff_ne.mpr hother]

theorem lookup_reverse_eq_none {writes : List (Location × List UInt8)} {rel : Location} :
    writes.reverse.lookup rel = none ↔ rel ∉ writes.map Prod.fst := by
  rw [List.lookup_eq_none_iff]
  constructor
  · intro h hmem
    obtain ⟨w, hw, rfl⟩ := List.mem_map.mp hmem
    simpa using h w (List.mem_reverse.mpr hw)
  · intro h w hw
    have hne : rel ≠ w.1 := by
      rintro rfl
      exact h (List.mem_map_of_mem (List.mem_reverse.mp hw))
    simpa using hne

/-- Writing files below a location leaves their tree, if above the files there are folders, and
nowhere else anything. -/
theorem node?_written {fs : FileSystem} {l : Location} {writes : List (Location × List UInt8)}
    {places : List Location} (hl : l ≠ []) (hplaces : writes.map Prod.fst = places)
    (habove : ∀ rel, rel ∉ places → (∃ place ∈ places, rel <+: place) →
      fs.node? (l ++ rel) = some .folder)
    (helse : ∀ rel, (∀ place ∈ places, ¬ rel <+: place) → fs.node? (l ++ rel) = none)
    (rel : Location) :
    (fs.writeAll (writes.map fun w => (l ++ w.1, w.2))).node? (l ++ rel) = treeOf writes rel := by
  have hne : ∀ w ∈ writes.map (fun w => (l ++ w.1, w.2)), w.1 ≠ [] := by
    intro w hw
    obtain ⟨w, -, rfl⟩ := List.mem_map.mp hw
    exact List.append_ne_nil_of_left_ne_nil hl _
  have hany : (writes.any fun w => rel.isPrefixOf w.1) = true ↔
      ∃ place ∈ places, rel <+: place := by
    rw [← hplaces]
    simp [List.isPrefixOf_iff_prefix]
  rw [FileSystem.node?_writeAll fs hne, ← List.map_reverse, lookup_below]
  unfold treeOf
  cases hwritten : writes.reverse.lookup rel with
  | some bytes => rfl
  | none =>
      rw [lookup_reverse_eq_none, hplaces] at hwritten
      simp only [Option.map_none, Option.none_or]
      by_cases hinto : ∃ place ∈ places, rel <+: place
      · rw [habove rel hwritten hinto, if_pos (hany.mpr hinto)]
      · rw [helse rel fun place hplace hpre => hinto ⟨place, hplace, hpre⟩,
          if_neg fun h => hinto (hany.mp h)]

namespace Organizer

variable {o : Organizer} {fs fs' : FileSystem} {root project : String} {listed : List Artifact}

/-! ## Folders that are made -/

/-- In an empty folder, folders are made only above the places of artifacts. -/
theorem createFolders_below (hconfined : ∀ a ∈ listed, isConfined a.filePath = true)
    (hdirect : ∀ l, Passes fs.working root l → landingOf fs.working root <+: l →
      l = landingOf fs.working root)
    (h : createFolders (foldersFor root (listed.map fun a => (a, o.pathOf root a))) fs =
      (.ok (), fs')) (rel : Location) :
    fs'.node? (landingOf fs.working root ++ rel) = fs.node? (landingOf fs.working root ++ rel) ∨
      rel = [] ∨ ∃ a ∈ listed, rel <+: o.placeOf a := by
  -- A folder below the location in question changes nothing there.
  have hkept : Action.Keeps fs.working (landingOf fs.working root ++ rel ++ [""])
      (fun l => Passes fs.working root l ∨
        ∃ a ∈ listed, ∃ k, k <+: o.placeOf a ∧ l = landingOf fs.working root ++ k)
      (createFolders (foldersFor root (listed.map fun a => (a, o.pathOf root a)))) := by
    refine createFolders_keeps fun d hd step hstep => Or.inl ?_
    rcases mem_foldersFor hd with rfl | ⟨t, ht, hparent⟩
    · exact Or.inl ((leadsInto_of_mem_stepsTo hstep).passes fs.working)
    · obtain ⟨a, ha, rfl⟩ := List.mem_map.mp ht
      have hpasses := (leadsInto_of_mem_stepsTo_parent hparent hstep).passes fs.working
      exact (passes_pathOf (hconfined a ha) hpasses).imp_right fun ⟨k, hk⟩ => ⟨a, ha, k, hk⟩
  have hwithin := hkept fs rfl
  rw [h] at hwithin
  have houtside : ¬ landingOf fs.working root ++ rel ++ [""] <+:
      landingOf fs.working root ++ rel :=
    fun hbelow => by simpa using hbelow.length_le
  rcases hwithin.outside _ houtside with hsame | ⟨hway, -, -⟩
  · exact Or.inl hsame
  rcases hway with hpasses | ⟨a, ha, k, hk, heq⟩
  · have hhere := hdirect _ hpasses (List.prefix_append _ _)
    exact Or.inr (Or.inl (by simpa using hhere))
  · rw [List.append_cancel_left heq]
    exact Or.inr (Or.inr ⟨a, ha, hk⟩)

/-! ## Folders that are there -/

/-- Each artifact is written where all but the places written before is as it was. -/
theorem writeFiles_stage {targets : List (Artifact × String)} {files : List OrganizedFile}
    (h : writeFiles targets fs = (.ok files, fs')) {t : Artifact × String} (ht : t ∈ targets) :
    ∃ (fs₁ : FileSystem) (place : Place), fs₁.working = fs.working ∧
      fs₁.resolve t.2 = .ok place ∧
      ∀ l, l ∉ targets.map (fun t => landingOf fs.working t.2) → fs₁.node? l = fs.node? l := by
  induction targets generalizing fs files with
  | nil => cases ht
  | cons first rest ih =>
      obtain ⟨fs₁, more, hwrite, hrest, -⟩ := writeFiles_cons_ok h
      rcases List.mem_cons.mp ht with rfl | ht
      · obtain ⟨-, place, hresolve, -⟩ := FileSystem.writeFile_eq_ok hwrite
        exact ⟨fs, place, rfl, hresolve, fun _ _ => rfl⟩
      · obtain ⟨fs₂, place, hworking, hresolve, hsame⟩ := ih hrest ht
        obtain ⟨rfl, -⟩ := FileSystem.writeFile_eq_ok hwrite
        refine ⟨fs₂, place, hworking, hresolve, fun l hl => ?_⟩
        rw [List.map_cons, List.mem_cons, not_or] at hl
        rw [hsame l hl.2, FileSystem.node?_put_of_ne fs hl.1]

theorem leadsDown_rootOf (o : Organizer) (project : String) :
    LeadsDown o.outputRoot (o.rootOf project) [folderName project] := by
  obtain ⟨hnames, hrelative, hclimbs⟩ := names_folderName project
  have hdown := (LeadsDown.refl o.outputRoot).join hrelative hclimbs
  rwa [hnames] at hdown

theorem leadsDown_pathOf (o : Organizer) (project : String) {a : Artifact}
    (hconfined : isConfined a.filePath = true) :
    LeadsDown o.outputRoot (o.pathOf (o.rootOf project) a) (folderName project :: o.placeOf a) := by
  obtain ⟨hfolder, hfolderClimbs⟩ := of_isConfined (o.folderOf_confined a.kind)
  obtain ⟨hfile, hfileClimbs⟩ := of_isConfined hconfined
  have hdown := ((leadsDown_rootOf o project).join hfolder hfolderClimbs).join hfile hfileClimbs
  rwa [List.append_assoc] at hdown

/-- Where the files of a project go, seen from its folder: the artifacts and the files about it. -/
def placesOf (o : Organizer) (listed : List Artifact) : List Location :=
  listed.map o.placeOf ++ aboutPlaces

theorem expectedFiles_places (o : Organizer) (listed : List Artifact) (project : String)
    (organized : Organized) (now : Instant) :
    (o.expectedFiles listed project organized now).map Prod.fst = o.placesOf listed := by
  unfold expectedFiles placesOf aboutPlaces
  simp [Function.comp_def]

/-- When the files of a project are written, there is a folder above each of their places. -/
theorem folders_above {files : List OrganizedFile} {text : String} {fs₃ : FileSystem}
    (hconfined : ∀ a ∈ listed, isConfined a.filePath = true)
    (hwrites : writeFiles (listed.map fun a => (a, o.pathOf (o.rootOf project) a)) fs =
      (.ok files, fs₃))
    (habout : writeAbout (o.rootOf project) readmeFile text fs₃ = (.ok (), fs')) {rel : Location}
    (hother : rel ∉ o.placesOf listed) (hinto : ∃ place ∈ o.placesOf listed, rel <+: place) :
    fs.node? (landingOf fs.working (o.rootOf project) ++ rel) = some .folder := by
  have hroot : landingOf fs.working (o.rootOf project) ++ rel =
      landingOf fs.working o.outputRoot ++ folderName project :: rel := by
    rw [o.landingOf_rootOf]
    simp
  have hunwritten : landingOf fs.working (o.rootOf project) ++ rel ∉
      (listed.map fun a => (a, o.pathOf (o.rootOf project) a)).map
        fun t => landingOf fs.working t.2 := by
    rw [List.map_map]
    intro hmem
    obtain ⟨a, ha, hsame⟩ := List.mem_map.mp hmem
    simp only [Function.comp_apply, o.landingOf_pathOf _ _ (hconfined a ha)] at hsame
    rw [← List.append_cancel_left hsame] at hother
    exact hother (List.mem_append_left _ (List.mem_map_of_mem ha))
  obtain ⟨place, hplace, hpre⟩ := hinto
  rcases List.mem_append.mp hplace with hplace' | hplace'
  · obtain ⟨a, ha, rfl⟩ := List.mem_map.mp hplace'
    obtain ⟨fs₁, found, hworking, hresolve, hsame⟩ :=
      writeFiles_stage hwrites (List.mem_map_of_mem ha)
    have hfolder := (o.leadsDown_pathOf project (hconfined a ha)).folder_above hresolve
      (k := folderName project :: rel) (by simp) (List.cons_prefix_cons.mpr ⟨rfl, hpre⟩)
      fun heq => hother (by rw [(List.cons.inj heq).2]; exact hplace)
    rw [← hsame _ hunwritten, hroot, ← hworking]
    exact hfolder
  · -- Both files about the folder lie right in it, and nothing but the folder is above them.
    have hnil : rel = [] := by
      have hsingle : ∃ name, place = [name] := by
        simp only [aboutPlaces, List.mem_cons, List.not_mem_nil, or_false] at hplace'
        rcases hplace' with rfl | rfl <;> exact ⟨_, rfl⟩
      obtain ⟨name, rfl⟩ := hsingle
      by_contra hne
      have hlength : [name].length ≤ rel.length := List.length_pos_iff.mpr hne
      rw [hpre.eq_of_length_le hlength] at hother
      exact hother hplace
    subst hnil
    obtain ⟨hfs₃, -⟩ := writeFiles_ok hwrites
    obtain ⟨-, found, hresolve, -⟩ := FileSystem.writeFile_eq_ok (Action.change_eq_ok habout)
    obtain ⟨hnames, hrelative, hclimbs⟩ := names_about.1
    have hdown := (leadsDown_rootOf o project).join hrelative hclimbs
    rw [hnames] at hdown
    have hfolder := hdown.folder_above hresolve (k := [folderName project]) (by simp)
      (List.prefix_append _ _) (by simp)
    rw [hroot] at hunwritten ⊢
    rw [← hfolder, hfs₃, FileSystem.writeAll_working, FileSystem.node?_writeAll_of_not_mem]
    simpa [List.map_map, Function.comp_def] using hunwritten

/-! ## The tree of a project -/

/-- An organizer that succeeds leaves the tree of the project's files, and no trace of what was
there before, if the folder of the project was cleared. -/
theorem organize_tree {artifacts : List Artifact} {now : Instant} {organized : Organized}
    (hwell : fs.WellFormed) (hstraight : Straight fs (o.rootOf project))
    (h : o.organize artifacts project now fs = (.ok organized, fs')) (rel : Location) :
    fs'.node? (landingOf fs.working (o.rootOf project) ++ rel) =
      treeOf (o.expectedFiles (o.mapped artifacts) project organized now) rel := by
  obtain ⟨hconfined, -, hlaid⟩ := organize_eq_ok h
  have hlisted : ∀ a ∈ o.mapped artifacts, isConfined a.filePath = true := fun a ha =>
    hconfined a (List.mem_of_mem_filter ha)
  have hne : landingOf fs.working (o.rootOf project) ≠ [] := by
    rw [o.landingOf_rootOf]
    simp
  obtain ⟨-, fs₁, fs₂, hclear, hfolders, hwritten⟩ := layOut_writes hlisted hlaid
  obtain ⟨-, gs₁, gs₂, fs₃, fs₄, hclear', hfolders', hwrites, hreadme, -⟩ := layOut_eq_ok hlaid
  obtain rfl : fs₁ = gs₁ := congrArg Prod.snd (hclear.symm.trans hclear')
  obtain rfl : fs₂ = gs₂ := congrArg Prod.snd (hfolders.symm.trans hfolders')
  obtain ⟨hworking₁, -, hnone, -⟩ := clear_landing hwell hne hstraight.seen hclear
  have hworking₂ : fs₂.working = fs.working := (createFolders_ok hfolders).working.trans hworking₁
  have hdirect := hstraight.direct
  rw [← hworking₁] at hdirect
  rw [hwritten, hworking₂]
  refine node?_written hne (o.expectedFiles_places _ project organized now) ?_ ?_ rel
  · intro rel hother hinto
    rw [← hworking₂]
    exact folders_above hlisted hwrites hreadme hother hinto
  · intro rel hother
    have hmade := createFolders_below hlisted hdirect hfolders rel
    rw [hworking₁] at hmade
    rcases hmade with hsame | rfl | ⟨a, ha, hpre⟩
    · rw [hsame, hnone rel]
    · exact absurd List.nil_prefix
        (hother [readmeFile] (List.mem_append_right _ List.mem_cons_self))
    · exact absurd hpre (hother _ (List.mem_append_left _ (List.mem_map_of_mem ha)))

/-! ## Two runs -/

/-- The line of the description that tells when it was made. -/
def stampLine (now : Instant) : String := "Generated by formgen on " ++ now.plainText ++ " UTC."

theorem joinLines_cons (line : String) (rest : List String) :
    joinLines (line :: rest) = line ++ "\n" ++ joinLines rest := by
  unfold joinLines
  rw [List.map_cons, String.join_cons]

/-- Of the description one line depends on the time. -/
theorem readmeText_eq (project : String) (organized : Organized) :
    ∃ before after, ∀ now, readmeText project organized now =
      before ++ "\n" ++ stampLine now ++ "\n" ++ after := by
  let name := (Path.fileName? organized.root).getD fallbackFolderName
  let paths := (organized.files.map fun f => pathBelow organized.root f.fullPath) ++
    [readmeFile, ignoreFile]
  refine ⟨"# " ++ project ++ "\n", joinLines ["", "- Files: " ++ toString organized.fileCount,
      "- Total size: " ++ sizeText organized.totalSize, "", "## Structure", ""]
    ++ "```text\n" ++ FolderTree.drawing name paths ++ "```\n\n"
    ++ joinLines (ArtifactCategory.all.flatMap (categorySection organized)), fun now => ?_⟩
  unfold readmeText stampLine
  rw [joinLines_cons, joinLines_cons, joinLines_cons]
  simp only [String.append_assoc, String.empty_append, name, paths]

theorem straight_rootOf (o : Organizer) (project : String) (hwell : fs.WellFormed)
    (hclimbs : ¬ Climbs o.outputRoot) : Straight fs (o.rootOf project) := by
  obtain ⟨hplain, hnames⟩ := o.rootOf_plain project hclimbs
  refine hwell.straight hplain ?_
  intro hempty
  rw [hempty] at hnames
  exact hnames rfl

/-- What is expected of a project differs with the time in the description alone. -/
theorem treeOf_expectedFiles (o : Organizer) (listed : List Artifact) (project : String)
    (organized : Organized) (now now' : Instant) {rel : Location} (hother : rel ≠ [readmeFile]) :
    treeOf (o.expectedFiles listed project organized now) rel =
      treeOf (o.expectedFiles listed project organized now') rel := by
  have hskip : (rel == [readmeFile]) = false := beq_eq_false_iff_ne.mpr hother
  unfold treeOf expectedFiles
  simp only [List.reverse_append, List.reverse_cons, List.reverse_nil, List.nil_append,
    List.cons_append, List.lookup_cons, hskip, List.any_append, List.any_cons]

theorem treeOf_readme (o : Organizer) (listed : List Artifact) (project : String)
    (organized : Organized) (now : Instant) :
    treeOf (o.expectedFiles listed project organized now) [readmeFile] =
      some (.file (Text.utf8Bytes (readmeText project organized now))) := by
  have hskip : ([readmeFile] == [ignoreFile]) = false := by decide
  unfold treeOf expectedFiles
  simp only [List.reverse_append, List.reverse_cons, List.reverse_nil, List.nil_append,
    List.cons_append, List.lookup_cons, hskip, beq_self_eq_true]
  rfl

theorem treeOf_eq_file {writes : List (Location × List UInt8)} {rel : Location}
    {bytes : List UInt8} (h : treeOf writes rel = some (.file bytes)) :
    rel ∈ writes.map Prod.fst := by
  by_contra hother
  unfold treeOf at h
  rw [lookup_reverse_eq_none.mpr hother, Option.map_none, Option.none_or] at h
  split at h <;> cases h

theorem treeOf_eq_folder {writes : List (Location × List UInt8)} {rel : Location}
    (h : treeOf writes rel = some .folder) :
    ∃ place ∈ writes.map Prod.fst, rel <+: place ∧ rel ≠ place := by
  unfold treeOf at h
  cases hwritten : writes.reverse.lookup rel with
  | some bytes =>
      rw [hwritten] at h
      cases h
  | none =>
      rw [hwritten, Option.map_none, Option.none_or] at h
      split at h
      next hany =>
        obtain ⟨w, hw, hpre⟩ := List.any_eq_true.mp hany
        refine ⟨w.1, List.mem_map_of_mem hw, List.isPrefixOf_iff_prefix.mp hpre, ?_⟩
        rintro rfl
        exact lookup_reverse_eq_none.mp hwritten (List.mem_map_of_mem hw)
      next => cases h

/-- Two runs for a project leave the same tree below its folder, wherever they start from, except
for the line of the description that tells the time.  There is no file in the tree but those of
the artifacts and those about the folder, and no folder but those above them. -/
theorem organize_replaces {artifacts : List Artifact} {now₁ now₂ : Instant}
    {fs₁ fs₁' fs₂ fs₂' : FileSystem} {organized₁ organized₂ : Organized}
    (hwell₁ : fs₁.WellFormed) (hwell₂ : fs₂.WellFormed)
    (hstraight : ¬ Climbs o.outputRoot ∨
      Straight fs₁ (o.rootOf project) ∧ Straight fs₂ (o.rootOf project))
    (h₁ : o.organize artifacts project now₁ fs₁ = (.ok organized₁, fs₁'))
    (h₂ : o.organize artifacts project now₂ fs₂ = (.ok organized₂, fs₂')) :
    organized₁ = organized₂ ∧
    (∀ rel, rel ≠ [readmeFile] →
      fs₁'.node? (landingOf fs₁.working (o.rootOf project) ++ rel) =
        fs₂'.node? (landingOf fs₂.working (o.rootOf project) ++ rel)) ∧
    (∃ before after,
      fs₁'.node? (landingOf fs₁.working (o.rootOf project) ++ [readmeFile]) = some (.file
        (Text.utf8Bytes (before ++ "\n" ++ stampLine now₁ ++ "\n" ++ after))) ∧
      fs₂'.node? (landingOf fs₂.working (o.rootOf project) ++ [readmeFile]) = some (.file
        (Text.utf8Bytes (before ++ "\n" ++ stampLine now₂ ++ "\n" ++ after)))) ∧
    (∀ rel bytes,
      fs₁'.node? (landingOf fs₁.working (o.rootOf project) ++ rel) = some (.file bytes) →
        rel ∈ o.placesOf (o.mapped artifacts)) ∧
    ∀ rel, fs₁'.node? (landingOf fs₁.working (o.rootOf project) ++ rel) = some .folder →
      ∃ place ∈ o.placesOf (o.mapped artifacts), rel <+: place ∧ rel ≠ place := by
  have hstraight₁ : Straight fs₁ (o.rootOf project) :=
    hstraight.elim (o.straight_rootOf project hwell₁) And.left
  have hstraight₂ : Straight fs₂ (o.rootOf project) :=
    hstraight.elim (o.straight_rootOf project hwell₂) And.right
  have hsame : organized₁ = organized₂ := by
    obtain ⟨hroot₁, hfiles₁, -⟩ := organize_lists h₁
    obtain ⟨hroot₂, hfiles₂, -⟩ := organize_lists h₂
    cases organized₁
    cases organized₂
    simp_all
  subst hsame
  have htree₁ := organize_tree hwell₁ hstraight₁ h₁
  have htree₂ := organize_tree hwell₂ hstraight₂ h₂
  have hplaces := o.expectedFiles_places (o.mapped artifacts) project organized₁ now₁
  refine ⟨rfl, fun rel hother => ?_, ?_, fun rel bytes hfile => ?_, fun rel hfolder => ?_⟩
  · rw [htree₁, htree₂]
    exact o.treeOf_expectedFiles _ project organized₁ now₁ now₂ hother
  · obtain ⟨before, after, hreadme⟩ := readmeText_eq project organized₁
    refine ⟨before, after, ?_, ?_⟩
    · rw [htree₁, treeOf_readme, hreadme]
    · rw [htree₂, treeOf_readme, hreadme]
  · rw [htree₁] at hfile
    rw [← hplaces]
    exact treeOf_eq_file hfile
  · rw [htree₁] at hfolder
    rw [← hplaces]
    exact treeOf_eq_folder hfolder

/-- What an earlier run may have left: a file where a folder is wanted, and a folder with a file. -/
def leftBehind : FileSystem :=
  ⟨[(["out"], .folder), (["out", "Lead"], .folder), (["out", "Lead", "old"], .folder),
    (["out", "Lead", "old", "notes.txt"], .file [107]), (["out", "Lead", "src"], .file [107])], []⟩

theorem wellFormed_leftBehind : leftBehind.WellFormed :=
  FileSystem.wellFormed_of_nodes (by decide) (by decide)

theorem leadAndTask_replaced :
    ∃ organized fs₁ fs₂,
      entitiesOnly.organize leadAndTask "Lead" ⟨0, 0⟩ FileSystem.empty = (.ok organized, fs₁) ∧
      entitiesOnly.organize leadAndTask "Lead" ⟨60, 0⟩ leftBehind = (.ok organized, fs₂) ∧
      ∀ rel, rel ≠ [readmeFile] →
        fs₁.node? (landingOf [] "/out/Lead" ++ rel) =
          fs₂.node? (landingOf [] "/out/Lead" ++ rel) := by
  have hcompletes :
      (entitiesOnly.organize leadAndTask "Lead" ⟨0, 0⟩ FileSystem.empty).1.isOk = true ∧
        (entitiesOnly.organize leadAndTask "Lead" ⟨60, 0⟩ leftBehind).1.isOk = true := by
    decide +kernel
  obtain ⟨hfirst, hsecond⟩ := hcompletes
  rcases h₁ : entitiesOnly.organize leadAndTask "Lead" ⟨0, 0⟩ FileSystem.empty with
    ⟨f | organized₁, fs₁⟩
  · simp [h₁, Except.isOk, Except.toBool] at hfirst
  rcases h₂ : entitiesOnly.organize leadAndTask "Lead" ⟨60, 0⟩ leftBehind with
    ⟨f | organized₂, fs₂⟩
  · simp [h₂, Except.isOk, Except.toBool] at hsecond
  obtain ⟨rfl, hsame, -⟩ := organize_replaces
    (FileSystem.wellFormed_of_nodes (by decide) (by decide)) wellFormed_leftBehind
    (Or.inl (by decide)) h₁ h₂
  exact ⟨organized₁, fs₁, fs₂, rfl, rfl, hsame⟩

/-- The output folder is reached through a folder that is missing, so what an earlier run has left
is not found, and is kept among the files of the next one. -/
theorem besideMissing_merges :
    leftBehind.WellFormed ∧
    (besideMissing.organize [] "Lead" ⟨0, 0⟩ leftBehind).1.isOk = true ∧
    (besideMissing.organize [] "Lead" ⟨0, 0⟩ FileSystem.empty).1.isOk = true ∧
    (besideMissing.organize [] "Lead" ⟨0, 0⟩ leftBehind).2.node?
        (landingOf [] (besideMissing.rootOf "Lead") ++ ["src"]) = some (.file [107]) ∧
    (besideMissing.organize [] "Lead" ⟨0, 0⟩ FileSystem.empty).2.node?
        (landingOf [] (besideMissing.rootOf "Lead") ++ ["src"]) = none ∧
    ["src"] ∉ besideMissing.placesOf (besideMissing.mapped []) := by
  refine ⟨wellFormed_leftBehind, ?_, ?_, ?_, ?_, by decide⟩ <;> decide +kernel

end Organizer

end FormScaffold.Output
