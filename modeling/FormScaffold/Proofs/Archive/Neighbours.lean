import FormScaffold.Archive.Reader
import FormScaffold.Proofs.Archive.Storing
import FormScaffold.Proofs.Output.ArchiveNames
import FormScaffold.Proofs.Output.Organizing

/-!
# What packing spares

A packer replaces the file that has the name of its archive, and no other.  So the archives of
other folders and of other seconds are read as before, whether packing succeeds or fails half-way.
-/

namespace FormScaffold.Archive

open Calendar Files Output Path

/-! ## All files but one stay -/

/-- All folders stay, and all files but for the one at a place. -/
structure Spared (place : Location) (fs fs' : FileSystem) : Prop
    extends FileSystem.KeepsFolders fs fs' where
  file : ∀ l content, l ≠ place → fs.node? l = some (.file content) →
    fs'.node? l = some (.file content)
  sound : fs.Sound → fs'.Sound

namespace Spared

variable {place : Location} {fs fs' fs'' : FileSystem}

theorem refl (fs : FileSystem) : Spared place fs fs := ⟨.refl fs, fun _ _ _ => id, id⟩

theorem trans (h : Spared place fs fs') (h' : Spared place fs' fs'') : Spared place fs fs'' where
  toKeepsFolders := h.toKeepsFolders.trans h'.toKeepsFolders
  file := fun l content hl hfile => h'.file l content hl (h.file l content hl hfile)
  sound := fun hsound => h'.sound (h.sound hsound)

theorem of_createFolders (fs : FileSystem) (path : String) :
    Spared place fs (fs.createFolders path).1 := by
  have hgrown : Grown (fun _ => True) fs (fs.createFolders path).1 := .of_createFolders fs path
  refine ⟨.of_grown hgrown, fun l content _ hfile => ?_, fun hsound => hsound.createFolders path⟩
  rcases hgrown.node l trivial with hsame | ⟨hnone, -⟩
  · rw [hsame, hfile]
  · rw [hfile] at hnone
    cases hnone

theorem of_writeFile {path : String} {bytes : List UInt8}
    (h : fs.writeFile path bytes = .ok fs') : Spared (landingOf fs.working path) fs fs' := by
  have hnode := FileSystem.node?_of_writeFile h
  refine ⟨?_, fun l content hl hfile => ?_, fun hsound => hsound.writeFile h⟩
  · rw [(FileSystem.writeFile_eq_ok h).1]
    exact .of_put hnode _
  · rw [(FileSystem.writeFile_eq_ok h).1, FileSystem.node?_put_of_ne fs hl, hfile]

theorem of_removeFile (hsound : fs.Sound) {path : String} (h : fs.removeFile path = .ok fs') :
    Spared (landingOf fs.working path) fs fs' := by
  obtain ⟨rfl, bytes, hfile⟩ := hsound.removeFile_file h
  have hother : ∀ l, l ≠ landingOf fs.working path →
      (fs.removeTree (landingOf fs.working path)).node? l = fs.node? l := fun l hl =>
    hsound.node?_removeTree_file hfile hl
  refine ⟨⟨rfl, fun l hl => ?_⟩, fun l content hl hcontent => ?_,
    fun _ => hsound.removeTree_file hfile⟩
  · rw [hother l, hl]
    rintro rfl
    rw [hl] at hfile
    cases hfile
  · rw [hother l hl, hcontent]

end Spared

/-- From the working folder on, the action leaves all files but one, whatever it returns. -/
def Spares {α : Type} (working place : Location) (a : Action Failure α) : Prop :=
  a.Leaves fun fs fs' => fs.working = working → fs.Sound → Spared place fs fs'

section Spares

variable {α β : Type} {working place : Location}

theorem Spares.bind {a : Action Failure α} {f : α → Action Failure β}
    (ha : Spares working place a) (hf : ∀ x, Spares working place (f x)) :
    Spares working place (a >>= f) := by
  refine Action.Leaves.bind (fun h h' hworking hsound => ?_) ha hf
  have hfirst := h hworking hsound
  exact hfirst.trans (h' (hfirst.working.trans hworking) (hfirst.sound hsound))

theorem requireFolder_spares (source : String) : Spares working place (requireFolder source) := by
  refine Spares.bind (Action.leaves_inspect (fun fs _ _ => .refl fs) _) fun present => ?_
  split
  · exact Action.leaves_pure (fun fs _ _ => .refl fs) ()
  · exact Action.leaves_ofExcept (fun fs _ _ => .refl fs) _

theorem makeFolders_spares (path : String) : Spares working place (makeFolders path) :=
  Action.leaves_attempt _ fun fs _ _ => .of_createFolders fs path

theorem writeBytes_spares (path : String) (bytes : List UInt8) :
    Spares working (landingOf working path) (writeBytes path bytes) := by
  refine Action.leaves_change (fun fs _ _ => .refl fs) _ fun fs fs' hwritten hworking _ => ?_
  rw [← hworking]
  exact .of_writeFile hwritten

theorem removePresent_spares (path : String) :
    Spares working (landingOf working path) (removePresent path) := by
  refine Spares.bind (Action.leaves_query (fun fs _ _ => .refl fs) _ _) fun present => ?_
  split
  · refine Action.leaves_change (fun fs _ _ => .refl fs) _ fun fs fs' hremoved hworking hsound => ?_
    rw [← hworking]
    exact .of_removeFile hsound hremoved
  · exact Action.leaves_pure (fun fs _ _ => .refl fs) ()

/-- Packing leaves all files but the one that has the name of the archive. -/
theorem create_spares [Codec] (source destination : String) (made : Instant) :
    Spares working (landingOf working (join destination (archiveNameOf source made)))
      (create source destination made) :=
  (requireFolder_spares source).bind fun _ => (makeFolders_spares destination).bind fun _ =>
    (removePresent_spares _).bind fun _ => (writeBytes_spares _ []).bind fun _ =>
      Spares.bind (Action.leaves_inspect (fun fs _ _ => .refl fs) _) fun entries =>
        (writeBytes_spares _ (Codec.encode entries)).bind fun _ =>
          Action.leaves_pure (fun fs _ _ => .refl fs) _

end Spares

/-! ## Archives of other folders and of other seconds -/

theorem landingOf_archive (working : Location) (destination folder : String) (made : Instant) :
    landingOf working (join destination (archiveName folder made)) =
      landingOf working destination ++ [archiveName folder made] := by
  obtain ⟨hnames, hrelative, hclimbs⟩ := names_archiveName folder made
  rw [landingOf_join working hrelative hclimbs, hnames]

/-- The last name of the folder that an organizer has laid out is that of the project. -/
theorem fileName?_organized {o : Organizer} {artifacts : List Artifact} {project : String}
    {now : Instant} {organized : Organized} {fs fs' : FileSystem}
    (h : o.organize artifacts project now fs = (.ok organized, fs')) :
    fileName? organized.root = some (folderName project) := by
  obtain ⟨-, -, hlaid⟩ := Organizer.organize_eq_ok h
  obtain ⟨hroot, -⟩ := Organizer.layOut_eq_ok hlaid
  rw [hroot]
  exact (isFolderName_folderName project).fileName?_join o.outputRoot

/-- Each project has a folder with one ordinary name, which a second cleaning keeps.  The archive
of a folder that an organizer has laid out has this name, an underscore and the digits of the
second.  Two names of archives are equal only for one folder and one second of the calendar.  So
packing, whatever comes of it, keeps all files but the one that has the name of its archive, among
them the archives of other folders and of other seconds. -/
theorem archiveName_eq_iff_and_packing_spares_others [Codec] :
    (∀ project, IsFolderName (folderName project) ∧
      components (folderName project) = [.name (folderName project)] ∧
      folderName project ≠ "." ∧ folderName project ≠ ".." ∧
      folderName (folderName project) = folderName project) ∧
    (∀ (o : Organizer) artifacts project now fs organized laid,
      o.organize artifacts project now fs = (.ok organized, laid) →
      fileName? organized.root = some (folderName project) ∧
      ∀ destination made there path packed,
        create organized.root destination made there = (.ok path, packed) →
        path = join destination (folderName project ++ "_" ++ made.compactText ++ ".zip") ∧
        fileName? path = some (folderName project ++ "_" ++ made.compactText ++ ".zip")) ∧
    (∀ folder other made later, archiveName folder made = archiveName other later ↔
      folderName folder = folderName other ∧ made.calendarSecond = later.calendarSecond) ∧
    ∀ source destination made fs, FileSystem.Sound fs →
      (∀ l content, l ≠ landingOf fs.working destination ++ [archiveNameOf source made] →
        fs.node? l = some (.file content) →
        (create source destination made fs).2.node? l = some (.file content)) ∧
      ∀ other later bytes, folderName other ≠ folderName ((fileName? source).getD "") ∨
          later.calendarSecond ≠ made.calendarSecond →
        fs.readBytes (join destination (archiveName other later)) = .ok bytes →
        (create source destination made fs).2.readBytes
          (join destination (archiveName other later)) = .ok bytes := by
  refine ⟨fun project => ?_, fun o artifacts project now fs organized laid h => ?_,
    fun folder other made later => archiveName_inj, fun source destination made fs hsound => ?_⟩
  · have hname := isFolderName_folderName project
    refine ⟨hname, hname.components_eq, fun hdot => ?_, fun hdots => ?_,
      folderName_eq_self_iff.mpr hname⟩
    · exact hname.ne_dots [] (by rw [hdot]; rfl)
    · exact hname.ne_dots ['.'] (by rw [hdots]; rfl)
  · have hroot := fileName?_organized h
    refine ⟨hroot, fun destination made there path packed hcreated => ?_⟩
    have hkept := folderName_eq_self_iff.mpr (isFolderName_folderName project)
    have hname : archiveNameOf organized.root made =
        folderName project ++ "_" ++ made.compactText ++ ".zip" := by
      unfold archiveNameOf archiveName
      rw [hroot, Option.getD_some, hkept]
    obtain ⟨hpath, -⟩ := acceptable_of_create hcreated
    rw [hpath, ← hname]
    exact ⟨rfl, (isFolderName_archiveName _ made).fileName?_join destination⟩
  · have hspared := create_spares source destination made fs rfl hsound
    unfold archiveNameOf at hspared ⊢
    rw [landingOf_archive] at hspared
    refine ⟨hspared.file, fun other later bytes hother hread => ?_⟩
    refine hspared.toKeepsFolders.readBytes (hspared.file _ bytes ?_) hread
    rw [landingOf_archive]
    intro hsame
    have hname := List.singleton_inj.mp (List.append_cancel_left hsame)
    obtain ⟨hfolder, hsecond⟩ := archiveName_inj.mp hname
    exact hother.elim (fun h => h hfolder) fun h => h hsecond

/-- An organizer without folders for artifacts. -/
def plainOrganizer : Organizer := ⟨"/out", ⟨[]⟩, [], by decide⟩

/-- The folder of a project next to a folder with the archive of another one, whose name ends in
the digits of a second. -/
def twoProjects : FileSystem :=
  ⟨[(["d"], .folder), (["d", "Lead_19700101000000_19700101000000.zip"], .file [107]),
    (["d", "notes.txt"], .file [110]), (["out"], .folder), (["out", "Lead"], .folder)], []⟩

theorem sound_twoProjects : twoProjects.Sound :=
  FileSystem.sound_of_nodes (by decide) (by decide) (by decide) (by decide)

/-- The project is packed next to the archive of the other one, which is read as before. -/
theorem twoProjects_apart : ∃ laid packed,
    plainOrganizer.organize [] "Lead" ⟨0, 0⟩ twoProjects = (.ok ⟨"/out/Lead", []⟩, laid) ∧
    fileName? "/out/Lead" = some (folderName "Lead") ∧
    create "/out/Lead" "/d" ⟨0, 0⟩ twoProjects = (.ok "/d/Lead_19700101000000.zip", packed) ∧
    fileName? "/d/Lead_19700101000000.zip" =
      some (folderName "Lead" ++ "_" ++ (⟨0, 0⟩ : Instant).compactText ++ ".zip") ∧
    packed.node? ["d", "notes.txt"] = some (.file [110]) ∧
    packed.readBytes (join "/d" (archiveName "Lead_19700101000000" ⟨0, 0⟩)) = .ok [107] := by
  have hlaid : (plainOrganizer.organize [] "Lead" ⟨0, 0⟩ twoProjects).1 =
      .ok ⟨"/out/Lead", []⟩ := by decide +kernel
  have hcreated : (create "/out/Lead" "/d" ⟨0, 0⟩ twoProjects).1 =
      .ok "/d/Lead_19700101000000.zip" := by decide +kernel
  obtain ⟨-, hnamed, -, hspared⟩ := archiveName_eq_iff_and_packing_spares_others
  obtain ⟨hfiles, hothers⟩ := hspared "/out/Lead" "/d" ⟨0, 0⟩ twoProjects sound_twoProjects
  have hnotes := hfiles ["d", "notes.txt"] [110] (by decide +kernel) (by decide)
  have hread := hothers "Lead_19700101000000" ⟨0, 0⟩ [107] (Or.inl (by decide +kernel))
    (by decide +kernel)
  rcases hrun : plainOrganizer.organize [] "Lead" ⟨0, 0⟩ twoProjects with ⟨result, laid⟩
  rcases hpacked : create "/out/Lead" "/d" ⟨0, 0⟩ twoProjects with ⟨path, packed⟩
  rw [hrun] at hlaid
  rw [hpacked] at hcreated hnotes hread
  obtain rfl : result = .ok ⟨"/out/Lead", []⟩ := hlaid
  obtain rfl : path = .ok "/d/Lead_19700101000000.zip" := hcreated
  obtain ⟨hroot, hname⟩ := hnamed _ _ _ _ _ _ _ hrun
  exact ⟨laid, packed, rfl, hroot, rfl, (hname _ _ _ _ _ hpacked).2, hnotes, hread⟩

end FormScaffold.Archive
