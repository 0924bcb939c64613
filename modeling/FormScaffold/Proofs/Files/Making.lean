import FormScaffold.Proofs.Files.Frame
import FormScaffold.Proofs.Files.Contents

/-!
# Making folders

A path that leads to a folder goes on to do so as long as folders stay folders.  Making a folder
succeeds where the path already leads to one, or where it is free in a folder that is there, and
once it has succeeded the path leads to a folder.
-/

namespace FormScaffold.Files

open Path

namespace FileSystem

/-! ## Paths that lead to folders -/

/-- The path leads to a folder, with or without a slash at its end. -/
def LeadsToFolder (fs : FileSystem) (path : String) : Prop :=
  fs.walk false (startOf fs.working path) .folder (stepsOf path) =
    .ok (.held (landingOf fs.working path) .folder)

/-- A slash at the end of a path asks for a folder only. -/
theorem walk_folder_slash {fs : FileSystem} {steps : List String} {l k : Location} {n : Node}
    (slash slash' : Bool) (h : fs.walk slash l n steps = .ok (.held k .folder)) :
    fs.walk slash' l n steps = .ok (.held k .folder) := by
  induction steps generalizing l n with
  | nil =>
      obtain ⟨hplace, -⟩ := walk_nil_eq_ok.1 h
      cases hplace
      exact walk_nil_eq_ok.2 ⟨rfl, fun _ => rfl⟩
  | cons s rest ih =>
      obtain ⟨hn, ⟨hdot, hwalk⟩ | ⟨hdots, hwalk⟩ |
          ⟨hdot, hdots, hshort, ⟨m, hnode, hwalk⟩ | ⟨-, -, hfree⟩⟩⟩ := walk_cons_iff.1 h
      · exact walk_cons_iff.2 ⟨hn, Or.inl ⟨hdot, ih hwalk⟩⟩
      · exact walk_cons_iff.2 ⟨hn, Or.inr (Or.inl ⟨hdots, ih hwalk⟩)⟩
      · exact walk_cons_iff.2 ⟨hn, Or.inr (Or.inr ⟨hdot, hdots, hshort,
          Or.inl ⟨m, hnode, ih hwalk⟩⟩)⟩
      · cases hfree

theorem leadsToFolder_of_resolve {fs : FileSystem} {path : String} {l : Location}
    (h : fs.resolve path = .ok (.held l .folder)) : fs.LeadsToFolder path := by
  have hlands := resolve_lands h
  change l = _ at hlands
  subst hlands
  exact walk_folder_slash _ _ (resolve_walk h)

/-- On a walk to a folder there are folders only. -/
theorem walk_of_append {fs : FileSystem} {first second : List String} {l k : Location} {n : Node}
    (h : fs.walk false l n (first ++ second) = .ok (.held k .folder)) :
    fs.walk false l n first = .ok (.held (landing l first) .folder) := by
  by_cases hsecond : second = []
  · rw [hsecond, List.append_nil] at h
    have hlands := walk_lands h
    rw [← hlands]
    exact h
  · exact ((walk_append_iff hsecond).mp h).1

/-- What leads into a path to a folder leads to a folder. -/
theorem LeadsToFolder.of_leadsInto {fs : FileSystem} {step path : String}
    (h : fs.LeadsToFolder path) (hstep : LeadsInto step path) : fs.LeadsToFolder step := by
  obtain ⟨hstart, more, hsteps⟩ := hstep
  have hsame : startOf fs.working step = startOf fs.working path := by
    unfold startOf
    rw [hstart]
  unfold LeadsToFolder landingOf at h ⊢
  rw [← hsteps] at h
  rw [hsame]
  exact walk_of_append h

/-- A text that the system takes as a path. -/
structure Acceptable (path : String) : Prop where
  nul : Char.ofNat 0 ∉ path.toList
  short : path.utf8ByteSize < pathLimit

theorem Acceptable.of_prefix {step path : String} (h : Acceptable path)
    (hpre : step.toList <+: path.toList) : Acceptable step := by
  refine ⟨fun hnul => h.nul (hpre.subset hnul), ?_⟩
  obtain ⟨more, hmore⟩ := hpre
  have hpath : path = step ++ String.ofList more := by
    rw [← String.toList_inj, String.toList_append, String.toList_ofList, hmore]
  have hsize := h.short
  rw [hpath, String.utf8ByteSize_append] at hsize
  omega

theorem Acceptable.join {base path : String} (h : Acceptable base)
    (hnul : Char.ofNat 0 ∉ path.toList) (hshort : (join base path).utf8ByteSize < pathLimit) :
    Acceptable (join base path) := by
  refine ⟨fun hmem => ?_, hshort⟩
  rcases mem_join hmem with hbase | hslash | hpath
  · exact h.nul hbase
  · exact absurd hslash (by decide)
  · exact hnul hpath

/-- A path that leads anywhere is one that the system takes. -/
theorem acceptable_of_resolve {fs : FileSystem} {path : String} {place : Place}
    (h : fs.resolve path = .ok place) : Acceptable path := by
  unfold resolve at h
  split at h
  · cases h
  · rename_i hnul
    split at h
    · cases h
    · split at h
      · cases h
      · rename_i hshort
        exact ⟨by simpa using hnul, Nat.not_le.mp hshort⟩

theorem resolve_of_acceptable {fs : FileSystem} {path : String} (h : Acceptable path)
    (hgiven : path ≠ "") :
    fs.resolve path = fs.walk (path.toList.getLast? == some '/') (startOf fs.working path) .folder
      (stepsOf path) := by
  unfold resolve
  rw [if_neg (by simpa using h.nul), if_neg (by simpa using hgiven),
    if_neg (Nat.not_le.mpr h.short)]
  rfl

theorem LeadsToFolder.resolve {fs : FileSystem} {path : String} (h : fs.LeadsToFolder path)
    (hpath : Acceptable path) (hgiven : path ≠ "") :
    fs.resolve path = .ok (.held (landingOf fs.working path) .folder) := by
  rw [resolve_of_acceptable hpath hgiven]
  exact walk_folder_slash _ _ h

theorem LeadsToFolder.stat {fs : FileSystem} {path : String} (h : fs.LeadsToFolder path)
    (hpath : Acceptable path) (hgiven : path ≠ "") : fs.stat path = .ok .folder := by
  unfold FileSystem.stat
  rw [h.resolve hpath hgiven]

/-- The steps of a path that no folder holds stay where they are. -/
theorem eq_dot_of_no_parent {path : String} (h : parent? path = none) {s : String}
    (hs : s ∈ stepsOf path) : s = "." := by
  obtain ⟨r, hr, rfl⟩ := List.mem_map.mp hs
  obtain ⟨hr, hgiven⟩ := List.mem_filter.mp hr
  have hsilent := List.filterMap_eq_nil_iff.mp (body_of_no_parent h) r hr
  have hempty : r ≠ [] := by simpa using hgiven
  rw [ofList_eq_iff]
  by_contra hdot
  unfold segmentComponent? at hsilent
  rw [if_neg (by simpa [hempty] using hdot)] at hsilent
  split at hsilent <;> cases hsilent

theorem leadsToFolder_of_no_parent {fs : FileSystem} {path : String} (h : parent? path = none) :
    fs.LeadsToFolder path := by
  have hdots := fun s hs => eq_dot_of_no_parent h (s := s) hs
  unfold LeadsToFolder landingOf
  generalize stepsOf path = steps at hdots
  induction steps with
  | nil => exact walk_nil_eq_ok.2 ⟨rfl, fun _ => rfl⟩
  | cons s rest ih =>
      obtain ⟨rfl, hrest⟩ := List.forall_mem_cons.mp hdots
      exact walk_cons_iff.2 ⟨rfl, Or.inl ⟨rfl, ih hrest⟩⟩

/-! ## Folders that stay -/

/-- Every folder of the first file system is one of the second. -/
structure KeepsFolders (fs fs' : FileSystem) : Prop where
  working : fs'.working = fs.working
  folder : ∀ l, fs.node? l = some .folder → fs'.node? l = some .folder

namespace KeepsFolders

variable {fs fs' fs'' : FileSystem}

theorem refl (fs : FileSystem) : KeepsFolders fs fs := ⟨rfl, fun _ => id⟩

theorem trans (h : KeepsFolders fs fs') (h' : KeepsFolders fs' fs'') : KeepsFolders fs fs'' :=
  ⟨h'.working.trans h.working, fun l hl => h'.folder l (h.folder l hl)⟩

theorem of_grown (h : Grown (fun _ => True) fs fs') : KeepsFolders fs fs' := by
  refine ⟨h.working, fun l hl => ?_⟩
  rcases h.node l trivial with hsame | ⟨-, hfolder⟩
  · rw [hsame, hl]
  · exact hfolder

theorem of_put {l : Location} (h : fs.node? l ≠ some .folder) (n : Node) :
    KeepsFolders fs (fs.put l n) := by
  refine ⟨rfl, fun k hk => ?_⟩
  have hne : k ≠ l := by
    rintro rfl
    exact h hk
  rw [node?_put_of_ne fs hne, hk]

/-- A walk finds what it found before if folders stay and so does what is found. -/
theorem walk (h : KeepsFolders fs fs') {slash : Bool} {steps : List String} {l k : Location}
    {n m : Node} (hend : m = .folder ∨ fs'.node? k = some m)
    (hwalk : fs.walk slash l n steps = .ok (.held k m)) :
    fs'.walk slash l n steps = .ok (.held k m) := by
  induction steps generalizing l n with
  | nil => exact hwalk
  | cons s rest ih =>
      obtain ⟨hn, ⟨hdot, hwalk⟩ | ⟨hdots, hwalk⟩ |
          ⟨hdot, hdots, hshort, ⟨m', hnode, hwalk⟩ | ⟨-, -, hfree⟩⟩⟩ := walk_cons_iff.1 hwalk
      · exact walk_cons_iff.2 ⟨hn, Or.inl ⟨hdot, ih hwalk⟩⟩
      · exact walk_cons_iff.2 ⟨hn, Or.inr (Or.inl ⟨hdots, ih hwalk⟩)⟩
      · refine walk_cons_iff.2 ⟨hn, Or.inr (Or.inr ⟨hdot, hdots, hshort,
          Or.inl ⟨m', ?_, ih hwalk⟩⟩)⟩
        cases m' with
        | folder => exact h.folder _ hnode
        | file bytes =>
            obtain ⟨-, -, hplace⟩ := walk_file hwalk
            cases hplace
            exact hend.resolve_left nofun
      · cases hfree

theorem leadsToFolder (h : KeepsFolders fs fs') {path : String} (hpath : fs.LeadsToFolder path) :
    fs'.LeadsToFolder path := by
  unfold LeadsToFolder at hpath ⊢
  rw [h.working]
  exact h.walk (Or.inl rfl) hpath

theorem resolve (h : KeepsFolders fs fs') {path : String} {l : Location} {m : Node}
    (hend : m = .folder ∨ fs'.node? l = some m) (hpath : fs.resolve path = .ok (.held l m)) :
    fs'.resolve path = .ok (.held l m) := by
  rw [resolve_of_ok hpath, h.working]
  exact h.walk hend (resolve_walk hpath)

end KeepsFolders

/-- A file is read as before if it stays where its path lands and all folders stay. -/
theorem KeepsFolders.readBytes {fs fs' : FileSystem} (h : KeepsFolders fs fs') {path : String}
    {bytes : List UInt8}
    (hfile : fs.node? (landingOf fs.working path) = some (.file bytes) →
      fs'.node? (landingOf fs.working path) = some (.file bytes))
    (hread : fs.readBytes path = .ok bytes) : fs'.readBytes path = .ok bytes := by
  unfold FileSystem.readBytes stat at hread
  split at hread
  · rename_i given hstat
    cases hread
    split at hstat
    · rename_i l n hresolve
      cases hstat
      have hnode := (resolve_held_node hresolve).resolve_left nofun
      obtain rfl : l = landingOf fs.working path := resolve_lands hresolve
      unfold FileSystem.readBytes stat
      rw [h.resolve (Or.inr (hfile hnode)) hresolve]
    · cases hstat
    · cases hstat
  · cases hread
  · cases hread

/-- Folders that are there are not made again. -/
theorem createSteps_append {fs : FileSystem} {steps : List String}
    (h : ∀ step ∈ steps, fs.stat step = .ok .folder) (rest : List String) :
    fs.createSteps (steps ++ rest) = fs.createSteps rest := by
  induction steps with
  | nil => rfl
  | cons step steps ih =>
      obtain ⟨hstep, hsteps⟩ := List.forall_mem_cons.mp h
      rw [List.cons_append, createSteps, hstep]
      exact ih hsteps

theorem createFolders_of_acceptable {fs : FileSystem} {path : String} (h : Acceptable path) :
    fs.createFolders path = fs.createSteps (stepsTo path) := by
  unfold createFolders
  rw [if_neg (by simpa using h.nul), if_neg (Nat.not_le.mpr h.short)]

theorem stat_of_mem_stepsTo {fs : FileSystem} {path step : String} (h : fs.LeadsToFolder path)
    (hpath : Acceptable path) (hstep : step ∈ stepsTo path) : fs.stat step = .ok .folder := by
  obtain ⟨hgiven, hpre⟩ := text_of_mem_stepsTo hstep
  exact (h.of_leadsInto (leadsInto_of_mem_stepsTo hstep)).stat (hpath.of_prefix hpre) hgiven

/-- Nothing is made where a path leads to a folder. -/
theorem createFolders_of_leadsToFolder {fs : FileSystem} {path : String}
    (h : fs.LeadsToFolder path) (hpath : Acceptable path) :
    fs.createFolders path = (fs, .ok ()) := by
  rw [createFolders_of_acceptable hpath, ← List.append_nil (stepsTo path),
    createSteps_append fun step hstep => stat_of_mem_stepsTo h hpath hstep]
  rfl

/-- A free place in a folder becomes a folder. -/
theorem createFolders_of_free {fs : FileSystem} {path up : String} {l : Location} {slash : Bool}
    (hup : parent? path = some up) (h : fs.LeadsToFolder up) (hpath : Acceptable path)
    (hfree : fs.resolve path = .ok (.free l slash)) :
    fs.createFolders path = (fs.put l .folder, .ok ()) := by
  obtain ⟨more, -, htext⟩ := parent?_text hup
  have hshorter := hpath.of_prefix ⟨more, htext.symm⟩
  rw [createFolders_of_acceptable hpath, stepsTo_of_parent hup,
    createSteps_append fun step hstep => stat_of_mem_stepsTo h hshorter hstep]
  unfold createSteps stat createFolder
  rw [hfree]
  rfl

/-- A free place that becomes a folder is found. -/
theorem walk_put_folder {fs : FileSystem} {slash flag : Bool} {steps : List String}
    {l k : Location} {n : Node} (h : fs.walk slash l n steps = .ok (.free k flag)) :
    (fs.put k .folder).walk slash l n steps = .ok (.held k .folder) := by
  have hfree := walk_free h
  induction steps generalizing l n with
  | nil =>
      obtain ⟨hplace, -⟩ := walk_nil_eq_ok.1 h
      cases hplace
  | cons s rest ih =>
      obtain ⟨hn, ⟨hdot, hwalk⟩ | ⟨hdots, hwalk⟩ |
          ⟨hdot, hdots, hshort, ⟨m, hnode, hwalk⟩ | ⟨-, rfl, hplace⟩⟩⟩ := walk_cons_iff.1 h
      · exact walk_cons_iff.2 ⟨hn, Or.inl ⟨hdot, ih hwalk⟩⟩
      · exact walk_cons_iff.2 ⟨hn, Or.inr (Or.inl ⟨hdots, ih hwalk⟩)⟩
      · have hne : l ++ [s] ≠ k := by
          rintro rfl
          rw [hnode] at hfree
          cases hfree
        exact walk_cons_iff.2 ⟨hn, Or.inr (Or.inr ⟨hdot, hdots, hshort,
          Or.inl ⟨m, by rw [node?_put_of_ne fs hne, hnode], ih hwalk⟩⟩)⟩
      · cases hplace
        exact walk_cons_iff.2 ⟨hn, Or.inr (Or.inr ⟨hdot, hdots, hshort, Or.inl ⟨.folder,
          node?_put_self fs (by simp) _, walk_nil_eq_ok.2 ⟨rfl, fun _ => rfl⟩⟩⟩)⟩

theorem createFolder_leadsToFolder {fs fs' : FileSystem} {path : String}
    (h : fs.createFolder path = .ok fs') : fs'.LeadsToFolder path := by
  unfold createFolder at h
  split at h
  · cases h
  · rename_i l slash hresolve
    cases h
    refine leadsToFolder_of_resolve (l := l) ?_
    rw [resolve_of_ok hresolve]
    exact walk_put_folder (resolve_walk hresolve)
  · cases h

/-- The last of several folders that are made is there afterwards. -/
theorem createSteps_ok {fs fs' : FileSystem} {steps : List String} {path : String}
    (h : fs.createSteps (steps ++ [path]) = (fs', .ok ())) : fs'.LeadsToFolder path := by
  induction steps generalizing fs with
  | nil =>
      rw [List.nil_append, createSteps] at h
      split at h
      · rename_i hstat
        cases h
        unfold stat at hstat
        split at hstat
        · rename_i l n hresolve
          cases hstat
          exact leadsToFolder_of_resolve hresolve
        · cases hstat
        · cases hstat
      · cases h
      · split at h
        · rename_i hcreated
          cases h
          exact createFolder_leadsToFolder hcreated
        · cases h
  | cons step steps ih =>
      rw [List.cons_append, createSteps] at h
      split at h
      · exact ih h
      · cases h
      · split at h
        · exact ih h
        · cases h

/-- Where making a folder succeeds, the path is one that the system takes and leads to a
folder. -/
theorem createFolders_ok {fs fs' : FileSystem} {path : String}
    (h : fs.createFolders path = (fs', .ok ())) : Acceptable path ∧ fs'.LeadsToFolder path := by
  unfold createFolders at h
  split at h
  · cases h
  · rename_i hnul
    split at h
    · cases h
    · rename_i hshort
      refine ⟨⟨by simpa using hnul, Nat.not_le.mp hshort⟩, ?_⟩
      cases hparent : parent? path with
      | none => exact leadsToFolder_of_no_parent hparent
      | some up =>
          rw [stepsTo_of_parent hparent] at h
          exact createSteps_ok h

end FileSystem

end FormScaffold.Files
