import FormScaffold.Proofs.Output.Confinement
import FormScaffold.Proofs.Text.Bytes
import Mathlib.Tactic.Ring

/-!
# What the list of a project says of its files

An organizer lists one file for each artifact whose kind has a folder, in the order of the
artifacts.  It writes them in turn and the files about the folder last, so what a path is read as
is what was written there last.  A listed file holds its artifact unless a later artifact, or a
file about the folder, goes to the same place; the list does not show it when one does.
-/

namespace FormScaffold

open Calendar Files Path Output

namespace Output.Organizer

variable {fs fs' : FileSystem}

/-! ## Files that stay -/

theorem writeFiles_leaves {targets : List (Artifact × String)} {files : List OrganizedFile}
    {path : String} {q : Location} {bytes : List UInt8}
    (h : writeFiles targets fs = (.ok files, fs'))
    (hne : q ∉ targets.map fun t => landingOf fs.working t.2)
    (hfound : fs.resolve path = .ok (.held q (.file bytes))) :
    fs'.resolve path = .ok (.held q (.file bytes)) := by
  induction targets generalizing fs files with
  | nil =>
      obtain ⟨-, rfl⟩ := Action.pure_eq_ok h
      exact hfound
  | cons t rest ih =>
      simp only [List.map_cons, List.mem_cons, not_or] at hne
      obtain ⟨fs₁, more, hwrite, hrest, -⟩ := writeFiles_cons_ok h
      refine ih hrest ?_ (FileSystem.resolve_writeFile_other hwrite hne.1 hfound)
      rw [FileSystem.working_of_writeFile hwrite]
      exact hne.2

theorem writeAbout_leaves {root name text path : String} {q : Location} {bytes : List UInt8}
    (hname : names name = [name] ∧ isAbsolute name = false ∧ ¬ Climbs name)
    (h : writeAbout root name text fs = (.ok (), fs'))
    (hne : q ≠ landingOf fs.working root ++ [name])
    (hfound : fs.resolve path = .ok (.held q (.file bytes))) :
    fs'.resolve path = .ok (.held q (.file bytes)) := by
  rw [← landingOf_name fs.working root hname] at hne
  exact FileSystem.resolve_writeFile_other (Action.change_eq_ok h) hne hfound

/-- A path leads to what was written there, unless a later path lands at the same location. -/
theorem writeFiles_reads {before after : List (Artifact × String)} {t : Artifact × String}
    {files : List OrganizedFile} (h : writeFiles (before ++ t :: after) fs = (.ok files, fs'))
    (hlast : landingOf fs.working t.2 ∉ after.map fun t => landingOf fs.working t.2) :
    fs'.resolve t.2 =
      .ok (.held (landingOf fs.working t.2) (.file (Text.utf8Bytes t.1.content))) := by
  induction before generalizing fs files with
  | nil =>
      obtain ⟨fs₁, more, hwrite, hrest, -⟩ := writeFiles_cons_ok h
      refine writeFiles_leaves hrest ?_ (FileSystem.resolve_writeFile hwrite)
      rw [FileSystem.working_of_writeFile hwrite]
      exact hlast
  | cons first before ih =>
      obtain ⟨fs₁, more, hwrite, hrest, -⟩ := writeFiles_cons_ok h
      rw [← FileSystem.working_of_writeFile hwrite] at hlast ⊢
      exact ih hrest hlast

/-! ## The list -/

/-- Where the files about the folder of a project are, seen from the folder. -/
def aboutPlaces : List Location := [[readmeFile], [ignoreFile]]

/-- What is listed for an artifact. -/
def entryOf (o : Organizer) (root : String) (a : Artifact) : OrganizedFile :=
  ⟨a.kind, o.pathOf root a, a.filePath, a.size⟩

/-- What an organizer that succeeds has listed, and where the path of an artifact leads then. -/
theorem layOut_lists {o : Organizer} {root project : String} {listed : List Artifact}
    {now : Instant} {organized : Organized}
    (hconfined : ∀ a ∈ listed, isConfined a.filePath = true)
    (h : layOut root (listed.map fun a => (a, o.pathOf root a)) project now fs =
      (.ok organized, fs')) :
    organized.root = root ∧ organized.files = listed.map (o.entryOf root) ∧
    ∀ before a after, listed = before ++ a :: after →
      o.placeOf a ∉ after.map o.placeOf ++ aboutPlaces →
      fs'.resolve (o.pathOf root a) = .ok (.held (landingOf fs.working root ++ o.placeOf a)
        (.file (Text.utf8Bytes a.content))) := by
  obtain ⟨hroot, fs₁, fs₂, fs₃, fs₄, hclear, hfolders, hwrites, hreadme, hignore⟩ := layOut_eq_ok h
  have hworking₂ : fs₂.working = fs.working := by
    have hcleared := (clear_keeps fs.working root fs rfl).working
    rw [hclear] at hcleared
    exact (createFolders_ok hfolders).working.trans hcleared
  obtain ⟨hfs₃, hfiles⟩ := writeFiles_ok hwrites
  have hworking₃ : fs₃.working = fs.working := by
    rw [hfs₃, FileSystem.writeAll_working, hworking₂]
  have hworking₄ : fs₄.working = fs.working := by
    rw [writeAbout_ok names_about.1 hreadme, FileSystem.put_working, hworking₃]
  refine ⟨hroot, by rw [hfiles, List.map_map]; rfl, ?_⟩
  rintro before a after rfl hplace
  simp only [aboutPlaces, List.mem_append, List.mem_cons, List.not_mem_nil, or_false,
    not_or] at hplace
  obtain ⟨hlater, hnotReadme, hnotIgnore⟩ := hplace
  have hlands : ∀ b ∈ before ++ a :: after,
      landingOf fs₂.working (o.pathOf root b) = landingOf fs.working root ++ o.placeOf b :=
    fun b hb => by rw [o.landingOf_pathOf _ _ (hconfined b hb), hworking₂]
  rw [List.map_append, List.map_cons] at hwrites
  have hwritten := writeFiles_reads hwrites (by
    intro hmem
    rw [List.map_map] at hmem
    obtain ⟨b, hb, hsame⟩ := List.mem_map.mp hmem
    simp only [Function.comp_apply] at hsame
    rw [hlands a (by simp), hlands b (by simp [hb])] at hsame
    exact hlater (List.append_cancel_left hsame ▸ List.mem_map_of_mem hb))
  rw [hlands a (by simp)] at hwritten
  -- Neither of the files about the folder is written over it.
  refine writeAbout_leaves names_about.2 hignore ?_
    (writeAbout_leaves names_about.1 hreadme ?_ hwritten)
  · rw [hworking₄]
    exact fun hsame => hnotIgnore (List.append_cancel_left hsame)
  · rw [hworking₃]
    exact fun hsame => hnotReadme (List.append_cancel_left hsame)

/-- An organizer with a folder for every kind lists a file for each artifact. -/
theorem organize_files {o : Organizer} (htotal : ∀ kind, (o.layout.folderFor? kind).isSome = true)
    {artifacts : List Artifact} {project : String} {now : Instant} {organized : Organized}
    {fs fs' : FileSystem} (h : o.organize artifacts project now fs = (.ok organized, fs')) :
    organized.files = artifacts.map (o.entryOf organized.root) := by
  obtain ⟨hconfined, -, hlaid⟩ := organize_eq_ok h
  rw [mapped_total htotal] at hlaid
  obtain ⟨hroot, hfiles, -⟩ := layOut_lists hconfined hlaid
  rw [hfiles, hroot]

/-- The path leads to a file that holds the artifact. -/
def Holds (fs : FileSystem) (path : String) (a : Artifact) : Prop :=
  fs.readBytes path = .ok (Text.utf8Bytes a.content) ∧ fs.sizeOf path = .ok a.size

theorem holds_of_resolve {path : String} {a : Artifact} {l : Location}
    (h : fs.resolve path = .ok (.held l (.file (Text.utf8Bytes a.content)))) : Holds fs path a := by
  unfold Holds FileSystem.readBytes FileSystem.sizeOf FileSystem.stat
  rw [h]
  exact ⟨rfl, congrArg Except.ok (Text.length_utf8Bytes a.content)⟩

/-- An organizer that succeeds lists one file for each artifact whose kind has a folder, in order.
A listed path holds its artifact unless a later artifact or a file about the folder has the same
place.  When no place occurs twice, the listed paths lead to different files, each with its
artifact, and number and total size are those of the files. -/
theorem organize_lists {o : Organizer} {artifacts : List Artifact} {project : String}
    {now : Instant} {organized : Organized}
    (h : o.organize artifacts project now fs = (.ok organized, fs')) :
    organized.root = o.rootOf project ∧
    organized.files = (o.mapped artifacts).map (o.entryOf (o.rootOf project)) ∧
    (∀ before a after, o.mapped artifacts = before ++ a :: after →
      o.placeOf a ∉ after.map o.placeOf ++ aboutPlaces →
      Holds fs' (o.pathOf (o.rootOf project) a) a) ∧
    (((o.mapped artifacts).map o.placeOf ++ aboutPlaces).Nodup →
      (organized.files.map fun f => landingOf fs'.working f.fullPath).Nodup ∧
      (∀ a ∈ o.mapped artifacts, Holds fs' (o.pathOf (o.rootOf project) a) a) ∧
      organized.fileCount = (o.mapped artifacts).length ∧
      organized.totalSize =
        ((o.mapped artifacts).map fun a => (Text.utf8Bytes a.content).length).sum) := by
  have hworking : fs'.working = fs.working := by
    have hkept := (o.organize_keeps artifacts project now fs).working
    rw [h] at hkept
    exact hkept
  obtain ⟨hconfined, -, hlaid⟩ := organize_eq_ok h
  have hlisted : ∀ a ∈ o.mapped artifacts, isConfined a.filePath = true := fun a ha =>
    hconfined a (List.mem_of_mem_filter ha)
  obtain ⟨hroot, hfiles, hleads⟩ := layOut_lists hlisted hlaid
  have hholds : ∀ before a after, o.mapped artifacts = before ++ a :: after →
      o.placeOf a ∉ after.map o.placeOf ++ aboutPlaces →
      Holds fs' (o.pathOf (o.rootOf project) a) a := fun before a after hsplit hplace =>
    holds_of_resolve (hleads before a after hsplit hplace)
  refine ⟨hroot, hfiles, hholds, fun hnodup => ⟨?_, fun a ha => ?_, ?_, ?_⟩⟩
  · have hplaces : organized.files.map (fun f => landingOf fs'.working f.fullPath) =
        ((o.mapped artifacts).map o.placeOf).map
          (landingOf fs.working (o.rootOf project) ++ ·) := by
      rw [hfiles, List.map_map, List.map_map, hworking]
      exact List.map_congr_left fun a ha => o.landingOf_pathOf _ _ (hlisted a ha)
    rw [hplaces]
    exact (List.nodup_append.mp hnodup).1.map fun _ _ hsame => List.append_cancel_left hsame
  · obtain ⟨before, after, hsplit⟩ := List.append_of_mem ha
    refine hholds before a after hsplit ?_
    rw [hsplit, List.map_append, List.map_cons, List.append_assoc, List.cons_append] at hnodup
    exact (List.nodup_cons.mp (List.nodup_append.mp hnodup).2.1).1
  · rw [Organized.fileCount, hfiles, List.length_map]
  · rw [Organized.totalSize, hfiles, List.map_map]
    exact congrArg List.sum (List.map_congr_left fun a _ => (Text.length_utf8Bytes a.content).symm)

/-- An organizer with a folder for entities only. -/
def entitiesOnly : Organizer := ⟨"/out", ⟨[(.entity, "src")]⟩, [], by decide⟩

/-- Two entities. -/
def leadAndTask : List Artifact :=
  [⟨.entity, "Lead.cs", "first", ⟨0, 0⟩, by decide⟩,
   ⟨.entity, "./Task.cs", "second!", ⟨0, 0⟩, by decide⟩]

theorem leadAndTask_listed :
    ∃ organized fs', entitiesOnly.organize leadAndTask "Lead" ⟨0, 0⟩ FileSystem.empty =
        (.ok organized, fs') ∧ organized.fileCount = 2 ∧
      ∀ a ∈ entitiesOnly.mapped leadAndTask, Holds fs' (entitiesOnly.pathOf "/out/Lead" a) a := by
  have hcompletes :
      (entitiesOnly.organize leadAndTask "Lead" ⟨0, 0⟩ FileSystem.empty).1.isOk = true := by
    decide +kernel
  rcases hrun : entitiesOnly.organize leadAndTask "Lead" ⟨0, 0⟩ FileSystem.empty with
    ⟨f | organized, fs'⟩
  · simp [hrun, Except.isOk, Except.toBool] at hcompletes
  · obtain ⟨-, hholds, hcount, -⟩ := (organize_lists hrun).2.2.2 (by decide)
    exact ⟨organized, fs', rfl, hcount, hholds⟩

/-- Two entities with one path. -/
def leadTwice : List Artifact :=
  [⟨.entity, "Lead.cs", "first", ⟨0, 0⟩, by decide⟩,
   ⟨.entity, "Lead.cs", "second!", ⟨0, 0⟩, by decide⟩]

/-- The second entity is written over the first, and both are listed. -/
theorem leadTwice_listed :
    (entitiesOnly.organize leadTwice "Lead" ⟨0, 0⟩ FileSystem.empty).1 =
      .ok ⟨"/out/Lead",
        [⟨.entity, "/out/Lead/src/Lead.cs", "Lead.cs", 5⟩,
         ⟨.entity, "/out/Lead/src/Lead.cs", "Lead.cs", 7⟩]⟩ ∧
    (entitiesOnly.organize leadTwice "Lead" ⟨0, 0⟩ FileSystem.empty).2.readBytes
        "/out/Lead/src/Lead.cs" = .ok (Text.utf8Bytes "second!") ∧
    Text.utf8Bytes "second!" ≠ Text.utf8Bytes "first" := by
  refine ⟨by decide +kernel, by decide +kernel, by decide +kernel⟩

end Output.Organizer

end FormScaffold
