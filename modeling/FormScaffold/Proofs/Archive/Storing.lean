import FormScaffold.Proofs.Archive.Places

/-!
# What packing takes

Packing succeeds where there is a folder to pack and, outside of it, a place for the archive.  It
then writes an archive with an entry for each place below the folder, and changes nothing else but
for the folders that lead to the archive.
-/

namespace FormScaffold.Archive

open Calendar Files Output Path

/-- The name of the archive that a folder is packed into. -/
def archiveNameOf (source : String) (now : Instant) : String :=
  archiveName ((fileName? source).getD "") now

/-- What packing takes: a folder to pack, a folder outside of it for the archive, which is there
or can be made, and a name that is free for a file and short enough. -/
structure Packable (fs made : FileSystem) (source destination name : String) : Prop where
  sound : fs.Sound
  folder : fs.isFolder source = true
  folders : fs.createFolders destination = (made, .ok ())
  apart : ¬ landingOf fs.working source <+: landingOf fs.working destination
  short : name.utf8ByteSize ≤ FileSystem.nameLimit
  room : (join destination name).utf8ByteSize < FileSystem.pathLimit
  clear : made.node? (landingOf fs.working destination ++ [name]) ≠ some .folder

namespace Packable

variable {fs made : FileSystem} {source destination name : String}

theorem grown (h : Packable fs made source destination name) :
    Grown (fun _ => True) fs made := .of_createFolders_eq h.folders

theorem sound_made (h : Packable fs made source destination name) : made.Sound := by
  have hsound := h.sound.createFolders destination
  rwa [h.folders] at hsound

/-- The path of the archive leads to its name in the folder of archives, as long as that folder
is there. -/
theorem descends (h : Packable fs made source destination name) (hname : IsName name)
    {fs' : FileSystem} (hkept : FileSystem.KeepsFolders made fs') :
    FileSystem.Descends fs' destination (join destination name) [] name := by
  obtain ⟨hdestination, hleads⟩ := FileSystem.createFolders_ok h.folders
  obtain ⟨-, hrelative, -⟩ := hname.names
  refine ⟨hkept.leadsToFolder hleads, isAbsolute_join hrelative, ?_, by simpa using hname, ?_,
    hdestination.join hname.nul h.room⟩
  · rw [stepsOf_join hrelative, FileSystem.stepsOf_name hname]
    rfl
  · intro k hk hinto
    exact absurd (List.prefix_nil.mp hinto) hk

/-- The name of the archive does not end with a slash. -/
theorem getLast?_path (destination : String) (hname : IsName name) :
    ((join destination name).toList.getLast? == some '/') = false := by
  rw [getLast?_join destination hname.toList_ne_nil, beq_eq_false_iff_ne]
  exact fun hlast => hname.slash (List.mem_of_getLast? hlast)

/-- A file at the path of the archive is removed; all else is kept. -/
theorem removePresent (h : Packable fs made source destination name) (hname : IsName name) :
    ∃ cleared, removePresent (join destination name) made = (.ok (), cleared) ∧
      FileSystem.KeepsFolders made cleared ∧ Sorted cleared.nodes ∧
      cleared.node? (landingOf fs.working destination ++ [name]) = none ∧
      ∀ l, ¬ landingOf fs.working destination ++ [name] <+: l →
        cleared.node? l = made.node? l := by
  have hdescends := h.descends hname (.refl made)
  have hplace := @FileSystem.Descends.resolve_iff _ _ _ _ _ hdescends
  rw [h.grown.working, List.nil_append] at hplace
  have hclear := h.clear
  cases hnode : made.node? (landingOf fs.working destination ++ [name]) with
  | none =>
      have hfree := hplace.mpr (Or.inr ⟨hnode, rfl⟩)
      refine ⟨made, Action.bind_of_ok (Action.query_of_ok (x := false) ?_) rfl, .refl made,
        h.sound_made.sorted, hnode, fun _ _ => rfl⟩
      unfold FileSystem.isPresent FileSystem.stat
      rw [hfree]
  | some n =>
      cases n with
      | folder => exact absurd hnode hclear
      | file old =>
          have hslash := beq_eq_false_iff_ne.mp (getLast?_path destination hname)
          have hheld := hplace.mpr (Or.inl ⟨_, hnode, rfl, fun hlast => absurd hlast hslash⟩)
          refine ⟨made.removeTree (landingOf fs.working destination ++ [name]),
            Action.bind_of_ok (Action.query_of_ok (x := true) ?_) ?_, ⟨rfl, fun l hl => ?_⟩,
            FileSystem.sorted_removeTree h.sound_made.sorted _,
            FileSystem.node?_removeTree_of_prefix _ (by simp) (List.prefix_refl _),
            fun l hl => FileSystem.node?_removeTree_of_not_prefix _ hl⟩
          · unfold FileSystem.isPresent FileSystem.stat
            rw [hheld]
          · rw [if_pos rfl]
            refine Action.change_of_ok ?_
            unfold FileSystem.removeFile
            rw [hheld]
          · -- Nothing lies below a file, so no folder is removed with it.
            rw [FileSystem.node?_removeTree_of_not_prefix, hl]
            intro hbelow
            obtain rfl := h.sound_made.eq_of_file hnode hbelow (by rw [hl]; simp)
            rw [hnode] at hl
            cases hl

variable {fs' : FileSystem}

/-- Where nothing is at the place of the archive, it can be written there. -/
theorem writeFile (h : Packable fs made source destination name) (hname : IsName name)
    (hkept : FileSystem.KeepsFolders made fs')
    (hnone : fs'.node? (landingOf fs.working destination ++ [name]) = none) (bytes : List UInt8) :
    fs'.writeFile (join destination name) bytes =
      .ok (fs'.put (landingOf fs.working destination ++ [name]) (.file bytes)) := by
  have hworking : fs'.working = fs.working := hkept.working.trans h.grown.working
  have hfree : fs'.resolve (join destination name) =
      .ok (.free (landingOf fs.working destination ++ [name]) false) := by
    rw [(h.descends hname hkept).resolve_iff, hworking, List.nil_append,
      getLast?_path destination hname]
    exact Or.inr ⟨hnone, rfl⟩
  unfold FileSystem.writeFile
  rw [hfree]

end Packable

/-- Packing succeeds only if the system takes the path of the archive. -/
theorem acceptable_of_create [Codec] {source destination path : String} {now : Instant}
    {fs fs' : FileSystem} (h : create source destination now fs = (.ok path, fs')) :
    path = join destination (archiveNameOf source now) ∧ FileSystem.Acceptable path := by
  obtain ⟨u, fs₀, -, h⟩ := Action.bind_eq_ok h
  obtain ⟨u, fs₁, -, h⟩ := Action.bind_eq_ok h
  obtain ⟨u, fs₂, -, h⟩ := Action.bind_eq_ok h
  obtain ⟨u, fs₃, hwritten, h⟩ := Action.bind_eq_ok h
  obtain ⟨entries, fs₄, -, h⟩ := Action.bind_eq_ok h
  obtain ⟨u, fs₅, -, h⟩ := Action.bind_eq_ok h
  obtain ⟨rfl, -⟩ := Action.pure_eq_ok h
  obtain ⟨-, place, hresolve, -⟩ := FileSystem.writeFile_eq_ok (Action.change_eq_ok hwritten)
  exact ⟨rfl, FileSystem.acceptable_of_resolve hresolve⟩

end FormScaffold.Archive
