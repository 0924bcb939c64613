import FormScaffold.Proofs.Archive.Places

/-!
# Extraction to a folder

When an archive with the entries for a tree is extracted to an empty folder, each entry finds its
place free in a folder that an earlier entry has become.  So all entries are extracted, and the
folder holds the tree.  Wherever such an archive is extracted to, each file of the tree is written
at its place, and no other file changes.
-/

namespace FormScaffold.Archive

open Calendar Files Output Path

/-! ## Archives that hold entries -/

@[simp]
theorem Member.name_ofEntry (e : Entry) : (Member.ofEntry e).name = e.name := rfl

/-- The path that the entry for a place is written to, if it is for a file. -/
def fileTarget? (target : String) (place : Location × Node) : Option String :=
  match place.2 with
  | .folder => none
  | .file _ => some (join target (entryOf place).name)

/-- The entries for some places were extracted to a folder that was empty. -/
structure Filled (start : Location) (target : String) (done : List (Location × Node))
    (fs : FileSystem) : Prop where
  based : fs.working = start
  leads : fs.LeadsToFolder target
  below : ∀ rel, rel ≠ [] → fs.node? (landingOf start target ++ rel) = done.lookup rel

namespace Filled

variable {start : Location} {target : String} {places done rest : List (Location × Node)}
  {fs : FileSystem} {rel : Location} {node : Node}

/-- What is put at a place that is not listed is the next that is listed. -/
theorem put (h : Filled start target done fs) (hrel : rel ≠ [])
    (hnew : done.lookup rel = none) (node : Node) :
    Filled start target (done ++ [(rel, node)])
      (fs.put (landingOf start target ++ rel) node) := by
  have hfree : fs.node? (landingOf start target ++ rel) = none := (h.below rel hrel).trans hnew
  refine ⟨h.based, ?_, fun rel' hrel' => ?_⟩
  · exact (FileSystem.KeepsFolders.of_put (by rw [hfree]; simp) node).leadsToFolder h.leads
  · rw [List.lookup_append]
    by_cases hsame : rel' = rel
    · subst hsame
      rw [FileSystem.node?_put_self fs (by simp [hrel]), hnew, List.lookup_cons_self,
        Option.none_or]
    · have hother : [(rel, node)].lookup rel' = none := by
        rw [List.lookup_cons, beq_eq_false_iff_ne.mpr hsame]
        rfl
      rw [FileSystem.node?_put_of_ne fs fun heq => hsame (List.append_cancel_left heq),
        h.below rel' hrel', hother, Option.or_none]

/-- The path for the next place leads down through folders that were extracted before. -/
theorem descends (h : Filled start target done fs) (htree : Tree places) {up : Location}
    {last : String} (hplaces : places = done ++ (up ++ [last], node) :: rest)
    (htarget : FileSystem.Acceptable target)
    (hshort : (join target (entryOf (up ++ [last], node)).name).utf8ByteSize <
      FileSystem.pathLimit) :
    FileSystem.Descends fs target (join target (entryOf (up ++ [last], node)).name) up last := by
  have hplace : IsPlace (up ++ [last]) :=
    htree.isPlace (up ++ [last], node) (by rw [hplaces]; simp)
  have hrelative := hplace.isAbsolute_entry node
  refine ⟨h.leads, isAbsolute_join hrelative, ?_, hplace.names, fun k hk hinto => ?_,
    htarget.join (hplace.nul_not_mem_entry node) hshort⟩
  · rw [stepsOf_join hrelative, hplace.stepsOf_entry node]
  · rw [h.based, h.below k hk]
    refine htree.above_of_split hplaces hk (hinto.trans (List.prefix_append _ _)) ?_
    rintro rfl
    have hlength := hinto.length_le
    simp at hlength

/-- The next place is free. -/
theorem resolve_free (h : Filled start target done fs) (htree : Tree places) {up : Location}
    {last : String} (hplaces : places = done ++ (up ++ [last], node) :: rest)
    (htarget : FileSystem.Acceptable target)
    (hshort : (join target (entryOf (up ++ [last], node)).name).utf8ByteSize <
      FileSystem.pathLimit) :
    fs.resolve (join target (entryOf (up ++ [last], node)).name) =
      .ok (.free (landingOf start target ++ (up ++ [last])) (decide (node = .folder))) := by
  have hmem : (up ++ [last], node) ∈ places := by
    rw [hplaces]
    simp
  have hplace := htree.isPlace _ hmem
  have hfree : fs.node? (landingOf fs.working target ++ (up ++ [last])) = none := by
    rw [h.based, h.below _ (by simp)]
    exact htree.lookup_of_split hplaces
  have hslash : ((join target (entryOf (up ++ [last], node)).name).toList.getLast? == some '/') =
      decide (node = .folder) := by
    rw [htree.getLast?_target hmem]
  rw [← hslash, ← h.based]
  exact (h.descends htree hplaces htarget hshort).resolve_iff.mpr (Or.inr ⟨hfree, rfl⟩)

/-- The next entry is extracted to its place. -/
theorem extractMember (h : Filled start target done fs) (htree : Tree places)
    (hplaces : places = done ++ (rel, node) :: rest) (htarget : FileSystem.Acceptable target)
    (hshort : (join target (entryOf (rel, node)).name).utf8ByteSize < FileSystem.pathLimit) :
    ∃ fs', extractMember target (.ofEntry (entryOf (rel, node))) fs =
        (.ok (fileTarget? target (rel, node)), fs') ∧
      Filled start target (done ++ [(rel, node)]) fs' := by
  have hmem : (rel, node) ∈ places := by
    rw [hplaces]
    simp
  have hplace := htree.isPlace _ hmem
  refine ⟨fs.put (landingOf start target ++ rel) node, ?_,
    h.put hplace.given (htree.lookup_of_split hplaces) node⟩
  obtain ⟨up, last, rfl⟩ := (List.eq_nil_or_concat' rel).resolve_left hplace.given
  have hdescends := h.descends htree hplaces htarget hshort
  have hfree := h.resolve_free htree hplaces htarget hshort
  obtain ⟨folder, hfolder⟩ := hdescends.exists_parent
  have hparent := hdescends.leadsToFolder_parent hfolder
  unfold Archive.extractMember
  rw [Member.name_ofEntry]
  refine Action.bind_of_ok (orUnreadable_of_ok rfl) ?_
  rw [if_pos (hplace.isEnclosed_entry node)]
  cases node with
  | folder =>
      rw [if_pos ((htree.isFolderName_entry hmem).mpr rfl)]
      refine Action.bind_of_ok (Action.attempt_of_ok ?_) rfl
      exact FileSystem.createFolders_of_free hfolder hparent hdescends.acceptable hfree
  | file content =>
      have hwritten : fs.writeFile (join target (entryOf (up ++ [last], .file content)).name)
          content = .ok (fs.put (landingOf start target ++ (up ++ [last])) (.file content)) := by
        unfold FileSystem.writeFile
        rw [hfree]
        rfl
      obtain ⟨more, -, htext⟩ := parent?_text hfolder
      rw [if_neg fun hname => nomatch (htree.isFolderName_entry hmem).mp hname]
      have hextracted : extractFile (join target (entryOf (up ++ [last], .file content)).name)
          ⟨content, none⟩ fs =
            (.ok (), fs.put (landingOf start target ++ (up ++ [last])) (.file content)) := by
        unfold extractFile
        rw [hfolder]
        refine Action.bind_of_ok (Action.attempt_of_ok
          (FileSystem.createFolders_of_leadsToFolder hparent
            (hdescends.acceptable.of_prefix ⟨more, htext.symm⟩))) ?_
        exact Action.bind_of_ok (Action.change_of_ok hwritten) rfl
      exact Action.bind_of_ok hextracted rfl

/-- The rest of the entries are extracted to their places. -/
theorem extractMembers (htree : Tree places) (htarget : FileSystem.Acceptable target)
    (h : Filled start target done fs) (hplaces : places = done ++ rest)
    (hshort : ∀ place ∈ rest,
      (join target (entryOf place).name).utf8ByteSize < FileSystem.pathLimit) :
    ∃ fs', extractMembers target ((rest.map entryOf).map .ofEntry) fs =
        (.ok (rest.filterMap (fileTarget? target)), fs') ∧
      Filled start target places fs' := by
  induction rest generalizing done fs with
  | nil =>
      rw [List.append_nil] at hplaces
      exact ⟨fs, rfl, hplaces ▸ h⟩
  | cons place rest ih =>
      obtain ⟨hfirst, hlater⟩ := List.forall_mem_cons.mp hshort
      obtain ⟨fs₁, hextracted, hfilled⟩ := h.extractMember htree hplaces htarget hfirst
      obtain ⟨fs₂, hrest, hall⟩ := ih hfilled (by rw [hplaces]; simp) hlater
      refine ⟨fs₂, ?_, hall⟩
      refine Action.bind_of_ok hextracted (Action.bind_of_ok hrest ?_)
      rw [List.filterMap_cons]
      cases fileTarget? target place <;> rfl

end Filled

/-- The files of the second file system are those that were written, and otherwise those of the
first. -/
structure Overwritten (writes : List (Location × List UInt8)) (fs fs' : FileSystem) : Prop where
  working : fs'.working = fs.working
  file : ∀ l content, fs'.node? l = some (.file content) ↔
    (l, content) ∈ writes ∨ l ∉ writes.map Prod.fst ∧ fs.node? l = some (.file content)

namespace Overwritten

variable {fs fs' fs'' : FileSystem}

/-- New folders are no files. -/
theorem of_grown (h : Grown (fun _ => True) fs fs') : Overwritten [] fs fs' := by
  refine ⟨h.working, fun l content => ?_⟩
  rcases h.node l trivial with hsame | ⟨hnone, hfolder⟩
  · rw [hsame]
    simp
  · rw [hnone, hfolder]
    simp

theorem of_put {l : Location} (hl : l ≠ []) (content : List UInt8) :
    Overwritten [(l, content)] fs (fs.put l (.file content)) := by
  refine ⟨rfl, fun k other => ?_⟩
  by_cases hk : k = l
  · subst hk
    rw [FileSystem.node?_put_self fs hl]
    simp [eq_comm]
  · rw [FileSystem.node?_put_of_ne fs hk]
    simp [hk]

theorem append {first second : List (Location × List UInt8)} (h : Overwritten first fs fs')
    (h' : Overwritten second fs' fs'')
    (hapart : ∀ w ∈ first, w.1 ∉ second.map Prod.fst) :
    Overwritten (first ++ second) fs fs'' := by
  refine ⟨h'.working.trans h.working, fun l content => ?_⟩
  have hfirst : (l, content) ∈ first → l ∉ second.map Prod.fst := fun hmem => hapart _ hmem
  rw [h'.file, h.file, List.map_append, List.mem_append, List.mem_append]
  tauto

end Overwritten

variable {target : String} {fs fs' : FileSystem}

end FormScaffold.Archive
