import FormScaffold.Archive.Packager
import FormScaffold.Proofs.Files.Contents
import FormScaffold.Proofs.Output.ArchiveNames

/-!
# What packing leaves

A packer that succeeds has left the files of the packed folder as they were and has written
an archive whose entries, apart from those that stand for folders, are these files under
their places below the folder.
-/

namespace FormScaffold.Archive

open Calendar Files Output Path

/-! ## Entries -/

/-- The name of the entry for what lies at a place below a folder. -/
def entryName (rel : Location) : String := String.intercalate "/" rel

/-- The name of an entry ends as the last name of its place. -/
theorem getLast?_entryName (rel : Location) {last : String} (h : last.toList ≠ []) :
    (entryName (rel ++ [last])).toList.getLast? = last.toList.getLast? := by
  unfold entryName
  rw [String.toList_intercalate, List.map_append, List.map_singleton]
  induction rel with
  | nil => simp
  | cons name rest ih =>
      cases hmore : rest.map String.toList ++ [last.toList] with
      | nil => simp at hmore
      | cons next more =>
          rw [hmore] at ih
          have hne : List.intercalate "/".toList (next :: more) ≠ [] := by
            intro hnil
            rw [hnil] at ih
            exact h (List.getLast?_eq_none_iff.mp ih.symm)
          rw [List.map_cons, List.cons_append, hmore, List.intercalate_cons_cons,
            List.getLast?_append, List.getLast?_eq_some_getLast hne, Option.some_or,
            ← List.getLast?_eq_some_getLast hne, ih]

theorem isFolderName_entryName (rel : Location) {last : String} (h : last.toList ≠ []) :
    isFolderName (entryName (rel ++ [last])) = isFolderName last := by
  unfold isFolderName
  rw [getLast?_entryName rel h]

/-- Of the entries for what lies below a folder those that stand for no folder are the files,
unless a file is named like a folder. -/
theorem filter_entries {fs : FileSystem} {l : Location}
    (hplain : ∀ w ∈ fs.filesBelow l, isFolderName (entryName w.1) = false) :
    ((fs.below l).map entryOf).filter (fun e => !isFolderName e.name) =
      (fs.filesBelow l).map fun w => ⟨entryName w.1, w.2⟩ := by
  unfold FileSystem.filesBelow FileSystem.filesAmong at hplain ⊢
  generalize fs.below l = places at hplain ⊢
  induction places with
  | nil => rfl
  | cons place rest ih =>
      obtain ⟨rel, node⟩ := place
      cases node with
      | folder =>
          have hfolder : isFolderName (entryName rel ++ "/") = true := by
            unfold isFolderName
            simp
          rw [List.map_cons, List.filter_cons_of_neg, List.filterMap_cons]
          · exact ih hplain
          · simpa [entryOf, entryName] using hfolder
      | file bytes =>
          simp only [List.filterMap_cons, List.mem_cons, forall_eq_or_imp] at hplain
          rw [List.map_cons, List.filter_cons_of_pos, List.filterMap_cons]
          · simp only [List.map_cons]
            rw [ih hplain.2]
            rfl
          · simpa [entryOf, entryName] using hplain.1

/-! ## Locations near a folder -/

/-- The location is on the way to another or below it. -/
def Near (root l : Location) : Prop := l <+: root ∨ root <+: l

/-- A name in a folder that is not near another is not above anything near that one. -/
theorem not_above_near {root dir : Location} {name : String} (h : ¬ Near root dir) {k : Location}
    (hk : Near root k) : ¬ dir ++ [name] <+: k := by
  intro habove
  have hdir : dir <+: k := (List.prefix_append dir [name]).trans habove
  rcases hk with hk | hk
  · exact h (Or.inl (hdir.trans hk))
  · exact h (List.prefix_or_prefix_of_prefix hdir hk)

theorem not_near_child {root dir : Location} {name : String} (h : ¬ Near root dir) :
    ¬ Near root (dir ++ [name]) := fun hnear =>
  not_above_near h hnear (List.prefix_refl _)

/-! ## Steps of packing -/

variable {fs fs' : FileSystem}

theorem requireFolder_ok {source : String} (h : requireFolder source fs = (.ok (), fs')) :
    fs.isFolder source = true ∧ fs = fs' := by
  obtain ⟨present, fs₀, hpresent, h⟩ := Action.bind_eq_ok h
  obtain ⟨rfl, rfl⟩ := Action.inspect_eq_ok hpresent
  by_cases hfolder : fs.isFolder source = true
  · rw [if_pos hfolder] at h
    exact ⟨hfolder, (Action.pure_eq_ok h).2⟩
  · rw [if_neg hfolder] at h
    obtain ⟨hresult, -⟩ := Action.ofExcept_eq_ok h
    cases hresult

theorem removePresent_ok {path : String} (hclimbs : ¬ Climbs path)
    (h : removePresent path fs = (.ok (), fs')) :
    fs' = fs ∨ fs' = fs.removeTree (locationOf fs.working path) := by
  obtain ⟨present, fs₀, hpresent, h⟩ := Action.bind_eq_ok h
  obtain ⟨-, rfl⟩ := Action.query_eq_ok hpresent
  cases present with
  | true =>
      rw [if_pos rfl] at h
      exact Or.inr (FileSystem.removeFile_ok hclimbs (Action.change_eq_ok h))
  | false => exact Or.inl (Action.pure_eq_ok h).2.symm

theorem isFolder_held {path : String} (h : fs.isFolder path = true) :
    ∃ l, fs.resolve path = .ok (.held l .folder) := by
  unfold FileSystem.isFolder FileSystem.stat at h
  cases hresolve : fs.resolve path with
  | error e => simp [hresolve] at h
  | ok place =>
      cases place with
      | free l slash => simp [hresolve] at h
      | held l n =>
          cases n with
          | file bytes => simp [hresolve] at h
          | folder => exact ⟨l, rfl⟩

/-! ## The whole -/

/-- A packer that succeeds has kept the files of the folder, and has written an archive of all
that lay below it once the folders for the archive were made. -/
theorem create_ok [Codec] {source destination path : String} {now : Instant}
    (hsource : ¬ Climbs source) (hdestination : ¬ Climbs destination)
    (hapart : ¬ Near (locationOf fs.working source) (locationOf fs.working destination))
    (h : create source destination now fs = (.ok path, fs')) :
    path = join destination (archiveName ((fileName? source).getD "") now) ∧
    Grown (Near (locationOf fs.working source)) fs fs' ∧
    fs'.resolve source = .ok (.held (locationOf fs.working source) .folder) ∧
    ∃ packed, Grown (Near (locationOf fs.working source)) fs packed ∧
      fs'.readBytes path =
        .ok (Codec.encode ((packed.below (locationOf fs.working source)).map entryOf)) := by
  obtain ⟨u, fs₀, hrequired, h⟩ := Action.bind_eq_ok h
  obtain ⟨hfolder, rfl⟩ := requireFolder_ok hrequired
  obtain ⟨u, fs₁, hfolders, h⟩ := Action.bind_eq_ok h
  obtain ⟨u, fs₂, hremove, h⟩ := Action.bind_eq_ok h
  obtain ⟨u, fs₃, hcleared, h⟩ := Action.bind_eq_ok h
  obtain ⟨entries, fs₄, hlooked, h⟩ := Action.bind_eq_ok h
  obtain ⟨hentries, rfl⟩ := Action.inspect_eq_ok hlooked
  obtain ⟨u, fs₅, hwritten, h⟩ := Action.bind_eq_ok h
  obtain ⟨rfl, rfl⟩ := Action.pure_eq_ok h
  -- The archive lies near the folder of archives, thus not near what is packed.
  obtain ⟨hnames, hrelative, hplain⟩ := names_archiveName ((fileName? source).getD "") now
  generalize archiveName ((fileName? source).getD "") now = name at *
  have hclimbs : ¬ Climbs (join destination name) := by
    rw [climbs_join hrelative]
    simp [hdestination, hplain]
  have hlocation : ∀ working, locationOf working (join destination name) =
      locationOf working destination ++ [name] := by
    intro working
    unfold locationOf
    rw [isAbsolute_join hrelative, names_join hrelative, hnames, List.append_assoc]
  have hnear : ∀ fs' : FileSystem, Grown (Near (locationOf fs.working source)) fs fs' →
      ¬ Near (locationOf fs.working source) (locationOf fs'.working (join destination name)) := by
    intro fs' hgrown
    rw [hgrown.working, hlocation]
    exact not_near_child hapart
  have hgrown₁ : Grown (Near (locationOf fs.working source)) fs fs₁ := by
    rw [Action.attempt_eq_ok hfolders]
    exact .of_createFolders fs destination
  have hgrown₂ : Grown (Near (locationOf fs.working source)) fs fs₂ := by
    rcases removePresent_ok hclimbs hremove with rfl | rfl
    · exact hgrown₁
    · refine hgrown₁.trans (.of_removeTree fun k hk => ?_)
      rw [hgrown₁.working, hlocation]
      exact not_above_near hapart hk
  have hgrown₃ : Grown (Near (locationOf fs.working source)) fs fs₃ := by
    obtain ⟨rfl, -, -⟩ := FileSystem.writeFile_ok hclimbs (Action.change_eq_ok hcleared)
    exact hgrown₂.trans (.of_put (hnear fs₂ hgrown₂) _)
  have hwrite := Action.change_eq_ok hwritten
  have hgrown₅ : Grown (Near (locationOf fs.working source)) fs fs₅ := by
    obtain ⟨rfl, -, -⟩ := FileSystem.writeFile_ok hclimbs hwrite
    exact hgrown₃.trans (.of_put (hnear fs₃ hgrown₃) _)
  -- What is packed still lies where it was found to be.
  obtain ⟨l, hheld⟩ := isFolder_held hfolder
  obtain ⟨rfl, -⟩ := FileSystem.resolve_held hsource hheld
  have hway : ∀ k, k <+: Path.names source →
      Near (locationOf fs.working source) (FileSystem.startOf fs.working source ++ k) :=
    fun k hk => Or.inl ((List.prefix_append_right_inj _).mpr hk)
  refine ⟨rfl, hgrown₅, hgrown₅.resolve hsource hway hheld, fs₃, hgrown₃, ?_⟩
  rw [FileSystem.readBytes_writeFile hwrite, ← hentries]
  unfold entriesBelow FileSystem.belowPath
  rw [hgrown₃.resolve hsource hway hheld]

end FormScaffold.Archive
