import FormScaffold.Files.FileSystem
import FormScaffold.Proofs.Files.Resolution
import Mathlib.Data.List.Nodup

/-!
# Contents of file systems

An action that succeeds has taken each of its steps with success.  Writes to different
locations leave each location with what was written to it, and the files below a folder are
those that lookups find there.
-/

namespace FormScaffold.Files

open Path

/-! ## Actions that succeed -/

namespace Action

variable {ε α β : Type} {fs fs' fs'' : FileSystem}

theorem bind_eq_ok {a : Action ε α} {f : α → Action ε β} {y : β}
    (h : (a >>= f) fs = (.ok y, fs'')) :
    ∃ x fs', a fs = (.ok x, fs') ∧ f x fs' = (.ok y, fs'') := by
  change (match a fs with
    | (r, fs') => ExceptT.bindCont f r fs') = _ at h
  rcases hfirst : a fs with ⟨r | x, fs'⟩
  · rw [hfirst] at h
    cases h
  · rw [hfirst] at h
    exact ⟨x, fs', rfl, h⟩

/-- What follows a step that succeeds goes on from where the step ends. -/
theorem bind_of_ok {a : Action ε α} {f : α → Action ε β} {x : α} {r : Except ε β × FileSystem}
    (ha : a fs = (.ok x, fs')) (hf : f x fs' = r) : (a >>= f) fs = r := by
  change (match a fs with
    | (r, fs') => ExceptT.bindCont f r fs') = _
  rw [ha]
  exact hf

/-- Nothing follows a step that fails. -/
theorem bind_of_error {a : Action ε α} {f : α → Action ε β} {e : ε}
    (h : a fs = (.error e, fs')) : (a >>= f) fs = (.error e, fs') := by
  change (match a fs with
    | (r, fs') => ExceptT.bindCont f r fs') = _
  rw [h]
  rfl

theorem query_of_ok {reword : FileError → ε} {f : FileSystem → Except FileError α} {x : α}
    (h : f fs = .ok x) : query reword f fs = (.ok x, fs) := by
  unfold query
  simp only [h]

theorem change_of_ok {reword : FileError → ε} {f : FileSystem → Except FileError FileSystem}
    (h : f fs = .ok fs') : change reword f fs = (.ok (), fs') := by
  unfold change
  simp only [h]

theorem attempt_of_ok {reword : FileError → ε}
    {f : FileSystem → FileSystem × Except FileError Unit} (h : f fs = (fs', .ok ())) :
    attempt reword f fs = (.ok (), fs') := by
  unfold attempt
  simp only [h]

theorem pure_eq_ok {x y : α} (h : (pure x : Action ε α) fs = (.ok y, fs')) : x = y ∧ fs = fs' := by
  cases h
  exact ⟨rfl, rfl⟩

theorem inspect_eq_ok {f : FileSystem → α} {x : α}
    (h : (inspect f : Action ε α) fs = (.ok x, fs')) : f fs = x ∧ fs = fs' := by
  cases h
  exact ⟨rfl, rfl⟩

theorem ofExcept_eq_ok {r : Except ε α} {x : α}
    (h : (ofExcept r : Action ε α) fs = (.ok x, fs')) : r = .ok x ∧ fs = fs' := by
  cases h
  exact ⟨rfl, rfl⟩

theorem query_eq_ok {reword : FileError → ε} {f : FileSystem → Except FileError α} {x : α}
    (h : query reword f fs = (.ok x, fs')) : f fs = .ok x ∧ fs = fs' := by
  unfold query at h
  split at h
  · rename_i y hresult
    cases h
    exact ⟨hresult, rfl⟩
  · cases h

theorem change_eq_ok {reword : FileError → ε} {f : FileSystem → Except FileError FileSystem}
    {x : Unit} (h : change reword f fs = (.ok x, fs')) : f fs = .ok fs' := by
  unfold change at h
  split at h
  · rename_i next hresult
    cases h
    exact hresult
  · cases h

theorem attempt_eq_ok {reword : FileError → ε}
    {f : FileSystem → FileSystem × Except FileError Unit} {x : Unit}
    (h : attempt reword f fs = (.ok x, fs')) : fs' = (f fs).1 := by
  unfold attempt at h
  split at h
  · rename_i next hresult
    cases h
    rw [hresult]
  · cases h

end Action

/-! ## Sound file systems -/

namespace FileSystem

/-- A file system as it can be found: its list is in order, and what is not at the root lies
in a folder. -/
structure WellFormed (fs : FileSystem) : Prop where
  sorted : Sorted fs.nodes
  folders : ∀ l s, fs.node? (l ++ [s]) ≠ none → fs.node? l = some .folder

/-- A list in order, in which all that is listed lies in a folder, makes a sound file system. -/
theorem wellFormed_of_nodes {fs : FileSystem} (hsorted : Sorted fs.nodes)
    (hfolders : ∀ p ∈ fs.nodes, fs.node? p.1.dropLast = some .folder) : fs.WellFormed := by
  refine ⟨hsorted, fun l s hheld => ?_⟩
  obtain ⟨node, hnode⟩ := Option.ne_none_iff_exists'.mp hheld
  rw [node?_of_ne_nil fs (by simp)] at hnode
  have hmem := (mem_iff_lookup hsorted (l ++ [s]) node).mpr hnode
  simpa using hfolders _ hmem

/-- Whatever leads to a location that holds something holds something as well. -/
theorem WellFormed.above {fs : FileSystem} (h : fs.WellFormed) {l : Location} (rel : Location)
    (hheld : fs.node? (l ++ rel) ≠ none) : fs.node? l ≠ none := by
  induction rel generalizing l with
  | nil => simpa using hheld
  | cons s rel ih =>
      have hnext : fs.node? (l ++ [s]) ≠ none := ih (by simpa using hheld)
      rw [h.folders l s hnext]
      simp

/-- What a path without `..` is not found at holds nothing. -/
theorem WellFormed.node?_of_absent {fs : FileSystem} (hwell : fs.WellFormed) {path : String}
    (hclimbs : ¬ Climbs path) (hgiven : path ≠ "") (h : fs.isPresent path = .ok false) :
    fs.node? (landingOf fs.working path) = none := by
  -- Some location on the way holds nothing, hence neither does any below it.
  have hgap : ∃ k, k <+: names path ∧ fs.node? (startOf fs.working path ++ k) = none := by
    unfold isPresent stat at h
    cases hresolve : fs.resolve path with
    | error e =>
        rw [hresolve] at h
        cases e with
        | notFound => exact resolve_notFound hclimbs hgiven hresolve
        | _ => cases h
    | ok place =>
        rw [hresolve] at h
        cases place with
        | held l n => cases h
        | free l slash =>
            obtain ⟨rfl, hnone⟩ := resolve_free hclimbs hresolve
            exact ⟨names path, List.prefix_refl _, hnone⟩
  obtain ⟨k, ⟨more, hk⟩, hnone⟩ := hgap
  have hlanding : landingOf fs.working path = (startOf fs.working path ++ k) ++ more := by
    rw [landingOf_eq_locationOf fs.working hclimbs, List.append_assoc, hk]
    rfl
  rw [hlanding]
  by_contra hheld
  exact hwell.above more hheld hnone

/-! ## Several writes -/

/-- Write files at several locations in turn. -/
def writeAll (fs : FileSystem) (writes : List (Location × List UInt8)) : FileSystem :=
  writes.foldl (fun fs w => fs.put w.1 (.file w.2)) fs

@[simp] theorem writeAll_nil (fs : FileSystem) : fs.writeAll [] = fs := rfl

@[simp] theorem writeAll_cons (fs : FileSystem) (w : Location × List UInt8)
    (rest : List (Location × List UInt8)) :
    fs.writeAll (w :: rest) = (fs.put w.1 (.file w.2)).writeAll rest := rfl

theorem writeAll_append (fs : FileSystem) (first second : List (Location × List UInt8)) :
    fs.writeAll (first ++ second) = (fs.writeAll first).writeAll second :=
  List.foldl_append

theorem writeAll_working (fs : FileSystem) (writes : List (Location × List UInt8)) :
    (fs.writeAll writes).working = fs.working := by
  induction writes generalizing fs with
  | nil => rfl
  | cons w rest ih => exact ih (fs.put w.1 (.file w.2))

theorem sorted_writeAll {fs : FileSystem} (h : Sorted fs.nodes)
    (writes : List (Location × List UInt8)) : Sorted (fs.writeAll writes).nodes := by
  induction writes generalizing fs with
  | nil => exact h
  | cons w rest ih => exact ih (sorted_put h w.1 _)

/-- A location that is not written to keeps what it holds. -/
theorem node?_writeAll_of_not_mem (fs : FileSystem) {writes : List (Location × List UInt8)}
    {l : Location} (h : l ∉ writes.map Prod.fst) : (fs.writeAll writes).node? l = fs.node? l := by
  induction writes generalizing fs with
  | nil => rfl
  | cons w rest ih =>
      simp only [List.map_cons, List.mem_cons, not_or] at h
      rw [writeAll_cons, ih _ h.2, node?_put_of_ne fs h.1]

/-- A location holds what was written to it last. -/
theorem node?_writeAll (fs : FileSystem) {writes : List (Location × List UInt8)}
    (hplaces : ∀ w ∈ writes, w.1 ≠ []) (l : Location) :
    (fs.writeAll writes).node? l = ((writes.reverse.lookup l).map .file).or (fs.node? l) := by
  induction writes generalizing fs with
  | nil => simp
  | cons w rest ih =>
      rw [writeAll_cons, ih _ fun w hw => hplaces w (List.mem_cons_of_mem _ hw),
        List.reverse_cons, List.lookup_append]
      by_cases hl : l = w.1
      · subst hl
        rw [node?_put_self fs (hplaces w List.mem_cons_self), List.lookup_cons_self]
        cases rest.reverse.lookup w.1 <;> rfl
      · have hother : [w].lookup l = none := by
          rw [List.lookup_cons, beq_eq_false_iff_ne.mpr hl]
          rfl
        rw [node?_put_of_ne fs hl, hother, Option.or_none]

/-- A location that is written to once holds what was written. -/
theorem node?_writeAll_of_mem (fs : FileSystem) {writes : List (Location × List UInt8)}
    (hnodup : (writes.map Prod.fst).Nodup) {l : Location} {bytes : List UInt8}
    (hmem : (l, bytes) ∈ writes) (hl : l ≠ []) :
    (fs.writeAll writes).node? l = some (.file bytes) := by
  induction writes generalizing fs with
  | nil => cases hmem
  | cons w rest ih =>
      rw [List.map_cons, List.nodup_cons] at hnodup
      rw [writeAll_cons]
      rcases List.mem_cons.mp hmem with rfl | hmem
      · rw [node?_writeAll_of_not_mem _ hnodup.1]
        exact node?_put_self fs hl _
      · exact ih _ hnodup.2 hmem

/-! ## Files below a folder -/

/-- The files among what lies at some locations, with their bytes. -/
def filesAmong (places : List (Location × Node)) : List (Location × List UInt8) :=
  places.filterMap fun place =>
    match place.2 with
    | .file bytes => some (place.1, bytes)
    | .folder => none

/-- The files below a location with their bytes, by location relative to it. -/
def filesBelow (fs : FileSystem) (l : Location) : List (Location × List UInt8) :=
  filesAmong (fs.below l)

/-- The files below the folder that a path leads to. -/
def filesAt (fs : FileSystem) (path : String) : List (Location × List UInt8) :=
  filesAmong (fs.belowPath path)

theorem filesAt_held {fs : FileSystem} {path : String} {l : Location} {n : Node}
    (h : fs.resolve path = .ok (.held l n)) : fs.filesAt path = fs.filesBelow l := by
  unfold filesAt belowPath
  rw [h]
  rfl

theorem mem_filesBelow {fs : FileSystem} (h : Sorted fs.nodes) (l rel : Location)
    (bytes : List UInt8) :
    (rel, bytes) ∈ fs.filesBelow l ↔ rel ≠ [] ∧ fs.node? (l ++ rel) = some (.file bytes) := by
  rw [← mem_below h l rel (.file bytes), filesBelow, filesAmong, List.mem_filterMap]
  constructor
  · rintro ⟨⟨rel', node⟩, hmem, hsome⟩
    cases node with
    | folder => cases hsome
    | file bytes' =>
        cases hsome
        exact hmem
  · intro hmem
    exact ⟨(rel, .file bytes), hmem, rfl⟩

theorem nodup_filesBelow {fs : FileSystem} (h : Sorted fs.nodes) (l : Location) :
    (fs.filesBelow l).Nodup := by
  refine List.Pairwise.filterMap _ ?_ (nodup_below h l)
  rintro ⟨rel, node⟩ ⟨rel', node'⟩ hne ⟨r, bytes⟩ hsome ⟨r', bytes'⟩ hsome' heq
  cases node with
  | folder => cases hsome
  | file b =>
      cases node' with
      | folder => cases hsome'
      | file b' =>
          cases hsome
          cases hsome'
          cases heq
          exact hne rfl

/-- The files below a location are those of a list without repetitions if the two have the
same members. -/
theorem filesBelow_perm {fs : FileSystem} (h : Sorted fs.nodes) (l : Location)
    {files : List (Location × List UInt8)} (hnodup : files.Nodup)
    (hmem : ∀ rel bytes, (rel, bytes) ∈ files ↔
      rel ≠ [] ∧ fs.node? (l ++ rel) = some (.file bytes)) : (fs.filesBelow l).Perm files := by
  rw [List.perm_ext_iff_of_nodup (nodup_filesBelow h l) hnodup]
  rintro ⟨rel, bytes⟩
  rw [mem_filesBelow h, hmem]

/-- Files that are written below a location without files are afterwards the files there. -/
theorem filesBelow_writeAll {fs : FileSystem} (hsorted : Sorted fs.nodes) {l : Location}
    (hl : l ≠ []) (hempty : ∀ rel bytes, fs.node? (l ++ rel) ≠ some (.file bytes))
    {files : List (Location × List UInt8)} (hnodup : (files.map Prod.fst).Nodup)
    (hplaces : ∀ w ∈ files, w.1 ≠ []) :
    ((fs.writeAll (files.map fun w => (l ++ w.1, w.2))).filesBelow l).Perm files := by
  have hkeys : (files.map fun w => (l ++ w.1, w.2)).map Prod.fst =
      (files.map Prod.fst).map (l ++ ·) := by
    simp [List.map_map, Function.comp_def]
  have hnodup' : ((files.map fun w => (l ++ w.1, w.2)).map Prod.fst).Nodup := by
    rw [hkeys]
    exact hnodup.map fun a b hab => List.append_cancel_left hab
  have hheld : ∀ rel bytes, (rel, bytes) ∈ files →
      (fs.writeAll (files.map fun w => (l ++ w.1, w.2))).node? (l ++ rel) =
        some (.file bytes) := by
    intro rel bytes hmem
    refine node?_writeAll_of_mem fs hnodup' ?_ (by simp [hl])
    exact List.mem_map.mpr ⟨(rel, bytes), hmem, rfl⟩
  refine filesBelow_perm (sorted_writeAll hsorted _) l hnodup.of_map fun rel bytes => ?_
  constructor
  · intro hmem
    exact ⟨hplaces _ hmem, hheld rel bytes hmem⟩
  · rintro ⟨-, hnode⟩
    -- A location that was not written holds what it held before, which is no file.
    by_cases hwritten : rel ∈ files.map Prod.fst
    · obtain ⟨⟨rel', bytes'⟩, hmem, rfl⟩ := List.mem_map.mp hwritten
      rw [hheld rel' bytes' hmem] at hnode
      cases hnode
      exact hmem
    · rw [node?_writeAll_of_not_mem] at hnode
      · exact absurd hnode (hempty rel bytes)
      · rw [hkeys]
        simpa using hwritten

end FileSystem

end FormScaffold.Files

/-!
## File systems that grow

Making folders adds folders where nothing was and leaves the rest as it is.  A change far
from the locations that are looked at does even less.  What is looked at then keeps its
files, and a path that led somewhere still leads there.
-/

namespace FormScaffold.Files

open Path

/-- Among the locations that are looked at, the second file system is the first with further
folders where nothing was. -/
structure Grown (seen : Location → Prop) (fs fs' : FileSystem) : Prop where
  working : fs'.working = fs.working
  node : ∀ l, seen l →
    fs'.node? l = fs.node? l ∨ (fs.node? l = none ∧ fs'.node? l = some .folder)
  sorted : Sorted fs.nodes → Sorted fs'.nodes

namespace Grown

variable {seen : Location → Prop} {fs fs' fs'' : FileSystem}

theorem refl (fs : FileSystem) : Grown seen fs fs := ⟨rfl, fun _ _ => Or.inl rfl, id⟩

theorem trans (h : Grown seen fs fs') (h' : Grown seen fs' fs'') : Grown seen fs fs'' := by
  refine ⟨h'.working.trans h.working, fun l hl => ?_, fun hs => h'.sorted (h.sorted hs)⟩
  rcases h.node l hl with hsame | ⟨hnone, hfolder⟩
  · rcases h'.node l hl with hsame' | ⟨hnone', hfolder'⟩
    · exact Or.inl (hsame'.trans hsame)
    · exact Or.inr ⟨hsame ▸ hnone', hfolder'⟩
  · rcases h'.node l hl with hsame' | ⟨hnone', -⟩
    · exact Or.inr ⟨hnone, hsame'.trans hfolder⟩
    · rw [hfolder] at hnone'
      cases hnone'

/-! ### Changes that let a file system grow -/

/-- What is put at a location that nobody looks at is not seen. -/
theorem of_put {l : Location} (hl : ¬ seen l) (n : Node) : Grown seen fs (fs.put l n) := by
  refine ⟨rfl, fun k hk => ?_, fun hs => FileSystem.sorted_put hs l n⟩
  have hne : k ≠ l := by
    rintro rfl
    exact hl hk
  exact Or.inl (FileSystem.node?_put_of_ne fs hne n)

/-- What is removed where nobody looks is not missed. -/
theorem of_removeTree {l : Location} (hl : ∀ k, seen k → ¬ l <+: k) :
    Grown seen fs (fs.removeTree l) :=
  ⟨rfl, fun k hk => Or.inl (FileSystem.node?_removeTree_of_not_prefix fs (hl k hk)),
    fun hs => FileSystem.sorted_removeTree hs l⟩

theorem of_createFolder {path : String} (h : fs.createFolder path = .ok fs') :
    Grown seen fs fs' := by
  obtain ⟨rfl, hnone⟩ := FileSystem.createFolder_eq_ok h
  have hne : landingOf fs.working path ≠ [] := by
    intro hnil
    rw [hnil] at hnone
    cases hnone
  refine ⟨rfl, fun k _ => ?_, fun hs => FileSystem.sorted_put hs _ .folder⟩
  by_cases hk : k = landingOf fs.working path
  · subst hk
    exact Or.inr ⟨hnone, FileSystem.node?_put_self fs hne .folder⟩
  · exact Or.inl (FileSystem.node?_put_of_ne fs hk .folder)

theorem of_createSteps (fs : FileSystem) (steps : List String) :
    Grown seen fs (fs.createSteps steps).1 := by
  induction steps generalizing fs with
  | nil => exact .refl fs
  | cons step rest ih =>
      unfold FileSystem.createSteps
      split
      · exact ih fs
      · exact .refl fs
      · split
        · rename_i fs' hcreate
          exact (of_createFolder hcreate).trans (ih fs')
        · exact .refl fs

/-- Making a folder and those that lead to it adds folders only, even when it fails. -/
theorem of_createFolders (fs : FileSystem) (path : String) :
    Grown seen fs (fs.createFolders path).1 := by
  unfold FileSystem.createFolders
  split
  · exact .refl fs
  · split
    · exact .refl fs
    · exact of_createSteps fs _

theorem of_createFolders_eq {path : String} {result : Except FileError Unit}
    (h : fs.createFolders path = (fs', result)) : Grown seen fs fs' := by
  have hgrown : Grown seen fs (fs.createFolders path).1 := of_createFolders fs path
  rwa [h] at hgrown

/-! ### What a file system that has grown keeps -/

/-- A path that led somewhere still leads there if the way to it is looked at. -/
theorem resolve (h : Grown seen fs fs') {path : String} (hclimbs : ¬ Climbs path)
    (hseen : ∀ k, k <+: names path → seen (FileSystem.startOf fs.working path ++ k))
    {l : Location} {n : Node} (hheld : fs.resolve path = .ok (.held l n)) :
    fs'.resolve path = .ok (.held l n) := by
  rw [← hheld]
  refine FileSystem.resolve_congr hclimbs h.working fun k hk hinto => ?_
  have hsome := FileSystem.resolve_held_above hclimbs hheld hk hinto
  rcases h.node _ (hseen k hinto) with hsame | ⟨hnone, -⟩
  · exact hsame
  · exact absurd hnone hsome

/-- The files below a location stay the same if all below it is looked at. -/
theorem filesBelow (h : Grown seen fs fs') (hsorted : Sorted fs.nodes) {l : Location}
    (hseen : ∀ rel, seen (l ++ rel)) : (fs'.filesBelow l).Perm (fs.filesBelow l) := by
  refine FileSystem.filesBelow_perm (h.sorted hsorted) l (FileSystem.nodup_filesBelow hsorted l)
    fun rel bytes => ?_
  rw [FileSystem.mem_filesBelow hsorted]
  rcases h.node _ (hseen rel) with hsame | ⟨hnone, hfolder⟩
  · rw [hsame]
  · rw [hnone, hfolder]
    simp

end Grown

end FormScaffold.Files
