import FormScaffold.Proofs.Files.Making

/-!
# Sound file systems

In a file system as it can be found, every location goes along names that folders give to what
they hold, and the working folder is there.  New folders keep a file system sound, as a path
leads to a free place in a folder only.
-/

namespace FormScaffold.Files

open Path

/-! ## Names -/

/-- A name that a folder can give to what it holds. -/
structure IsName (s : String) : Prop where
  given : s ≠ ""
  dot : s ≠ "."
  dots : s ≠ ".."
  slash : '/' ∉ s.toList
  nul : Char.ofNat 0 ∉ s.toList
  short : s.utf8ByteSize ≤ FileSystem.nameLimit

namespace IsName

variable {s : String}

theorem toList_ne_nil (h : IsName s) : s.toList ≠ [] := fun hnil =>
  h.given (String.toList_eq_nil_iff.mp hnil)

theorem names (h : IsName s) : Path.names s = [s] ∧ isAbsolute s = false ∧ ¬ Climbs s := by
  refine names_of_plain h.slash h.toList_ne_nil ?_ ?_
  · exact fun hdot => h.dot (String.toList_inj.mp hdot)
  · exact fun hdots => h.dots (String.toList_inj.mp hdots)

end IsName

instance (s : String) : Decidable (IsName s) :=
  decidable_of_iff (s ≠ "" ∧ s ≠ "." ∧ s ≠ ".." ∧ '/' ∉ s.toList ∧ Char.ofNat 0 ∉ s.toList ∧
    s.utf8ByteSize ≤ FileSystem.nameLimit)
    ⟨fun ⟨h₁, h₂, h₃, h₄, h₅, h₆⟩ => ⟨h₁, h₂, h₃, h₄, h₅, h₆⟩,
      fun h => ⟨h.given, h.dot, h.dots, h.slash, h.nul, h.short⟩⟩

/-- Names lead down. -/
theorem landing_names (l : Location) {rel : Location} (h : ∀ s ∈ rel, IsName s) :
    landing l rel = l ++ rel := by
  have hdots : ".." ∉ rel := fun hmem => (h _ hmem).dots rfl
  rw [landing_down l hdots]
  unfold FileSystem.proper
  rw [List.filter_eq_self.mpr fun s hs => by simpa using (h s hs).dot]

namespace FileSystem

/-- The steps of a path are not empty, and are cut at its slashes. -/
theorem of_mem_stepsOf {path s : String} (h : s ∈ stepsOf path) :
    s ≠ "" ∧ '/' ∉ s.toList ∧ s.toList ⊆ path.toList := by
  obtain ⟨r, hr, rfl⟩ := List.mem_map.mp h
  obtain ⟨hr, hgiven⟩ := List.mem_filter.mp hr
  rw [String.toList_ofList]
  refine ⟨fun hempty => ?_, slash_not_mem_of_mem_segmentsOf hr, mem_of_mem_segmentsOf hr⟩
  rw [ofList_eq_iff.mp hempty] at hgiven
  cases hgiven

theorem stepsOf_name {s : String} (h : IsName s) : stepsOf s = [s] := by
  unfold stepsOf
  rw [segmentsOf_of_not_mem h.slash, List.filter_cons_of_pos (by simpa using h.toList_ne_nil)]
  simp

/-! ## Sound file systems -/

/-- A file system as it can be found: what is not at the root lies in a folder, under a name that
a folder can give, and the working folder is there. -/
structure Sound (fs : FileSystem) : Prop extends WellFormed fs where
  named : ∀ l, fs.node? l ≠ none → ∀ s ∈ l, IsName s
  based : fs.node? fs.working = some .folder

/-- What holds of all that is listed holds of all that lookups find. -/
theorem sound_of_nodes {fs : FileSystem} (hsorted : Sorted fs.nodes)
    (hfolders : ∀ p ∈ fs.nodes, fs.node? p.1.dropLast = some .folder)
    (hnames : ∀ p ∈ fs.nodes, ∀ s ∈ p.1, IsName s) (hbased : fs.node? fs.working = some .folder) :
    fs.Sound := by
  refine { toWellFormed := wellFormed_of_nodes hsorted hfolders, named := ?_, based := hbased }
  intro l hheld s hs
  obtain ⟨node, hnode⟩ := Option.ne_none_iff_exists'.mp hheld
  rw [node?_of_ne_nil fs (List.ne_nil_of_mem hs)] at hnode
  exact hnames _ ((mem_iff_lookup hsorted l node).mpr hnode) s hs

namespace Sound

variable {fs fs' : FileSystem}

/-- The folder above one that is there is there as well. -/
theorem folder_above (h : fs.Sound) {l : Location} (hl : fs.node? l = some .folder) :
    fs.node? l.dropLast = some .folder := by
  obtain rfl | ⟨up, last, rfl⟩ := List.eq_nil_or_concat' l
  · exact hl
  · rw [List.dropLast_concat]
    refine h.folders up last ?_
    rw [hl]
    simp

/-- Nothing lies below a file. -/
theorem eq_of_file (h : fs.Sound) {l k : Location} {bytes : List UInt8}
    (hfile : fs.node? l = some (.file bytes)) (hbelow : l <+: k) (hheld : fs.node? k ≠ none) :
    k = l := by
  obtain ⟨rel, rfl⟩ := hbelow
  cases rel with
  | nil => exact List.append_nil l
  | cons s rest =>
      have hnext : fs.node? (l ++ [s]) ≠ none := h.above rest (by simpa using hheld)
      rw [h.folders l s hnext] at hfile
      cases hfile

/-- What a path leads to is what its location holds. -/
theorem resolve_held (h : fs.Sound) {path : String} {l : Location} {m : Node}
    (hheld : fs.resolve path = .ok (.held l m)) : fs.node? l = some m := by
  have hstart : fs.node? (startOf fs.working path) = some .folder := by
    unfold startOf
    split
    · rfl
    · exact h.based
  have hwalk := resolve_walk hheld
  generalize startOf fs.working path = start at hstart hwalk
  generalize stepsOf path = steps at hwalk
  generalize Node.folder = n at hstart hwalk
  induction steps generalizing start n with
  | nil =>
      obtain ⟨hplace, -⟩ := walk_nil_eq_ok.1 hwalk
      cases hplace
      exact hstart
  | cons s rest ih =>
      obtain ⟨rfl, ⟨-, hwalk⟩ | ⟨-, hwalk⟩ | ⟨-, -, -, ⟨m', hnode, hwalk⟩ | ⟨-, -, hplace⟩⟩⟩ :=
        walk_cons_iff.1 hwalk
      · exact ih _ _ hstart hwalk
      · exact ih _ _ (h.folder_above hstart) hwalk
      · exact ih _ _ hnode hwalk
      · cases hplace

/-- A walk ends at a free place only in a folder. -/
theorem walk_free (h : fs.Sound) {slash flag : Bool} {steps : List String} {l k : Location}
    (hsteps : ∀ s ∈ steps, s ≠ "" ∧ '/' ∉ s.toList ∧ Char.ofNat 0 ∉ s.toList)
    (hl : fs.node? l = some .folder)
    (hwalk : fs.walk slash l .folder steps = .ok (.free k flag)) :
    ∃ up last, k = up ++ [last] ∧ fs.node? up = some .folder ∧ IsName last := by
  induction steps generalizing l with
  | nil =>
      obtain ⟨hplace, -⟩ := walk_nil_eq_ok.1 hwalk
      cases hplace
  | cons s rest ih =>
      obtain ⟨⟨hgiven, hslash, hnul⟩, hrest⟩ := List.forall_mem_cons.mp hsteps
      obtain ⟨-, ⟨-, hwalk⟩ | ⟨-, hwalk⟩ |
          ⟨hdot, hdots, hshort, ⟨m, hnode, hwalk⟩ | ⟨-, -, hplace⟩⟩⟩ := walk_cons_iff.1 hwalk
      · exact ih hrest hl hwalk
      · exact ih hrest (h.folder_above hl) hwalk
      · cases m with
        | folder => exact ih hrest hnode hwalk
        | file bytes =>
            obtain ⟨-, -, hplace⟩ := walk_file hwalk
            cases hplace
      · cases hplace
        exact ⟨l, s, rfl, hl, ⟨hgiven, hdot, hdots, hslash, hnul, hshort⟩⟩

theorem resolve_free (h : fs.Sound) {path : String} {k : Location} {flag : Bool}
    (hfree : fs.resolve path = .ok (.free k flag)) :
    ∃ up last, k = up ++ [last] ∧ fs.node? up = some .folder ∧ IsName last := by
  refine h.walk_free (fun s hs => ?_) ?_ (resolve_walk hfree)
  · obtain ⟨hgiven, hslash, hchars⟩ := of_mem_stepsOf hs
    exact ⟨hgiven, hslash, fun hmem => (acceptable_of_resolve hfree).nul (hchars hmem)⟩
  · unfold startOf
    split
    · rfl
    · exact h.based

/-- What is put at a free place of a folder keeps the file system sound. -/
theorem put (h : fs.Sound) {up : Location} {last : String} (hup : fs.node? up = some .folder)
    (hlast : IsName last) (hfree : fs.node? (up ++ [last]) = none) (n : Node) :
    (fs.put (up ++ [last]) n).Sound := by
  have hother : ∀ {k}, fs.node? k = some .folder →
      (fs.put (up ++ [last]) n).node? k = some .folder := by
    intro k hk
    rw [node?_put_of_ne, hk]
    rintro rfl
    rw [hk] at hfree
    cases hfree
  refine { sorted := sorted_put h.sorted _ _, folders := ?_, named := ?_, based := hother h.based }
  · intro l s hheld
    by_cases hself : l ++ [s] = up ++ [last]
    · obtain ⟨rfl, -⟩ := List.append_inj' hself rfl
      exact hother hup
    · rw [node?_put_of_ne fs hself] at hheld
      exact hother (h.folders l s hheld)
  · intro l hheld s hs
    by_cases hself : l = up ++ [last]
    · subst hself
      rcases List.mem_append.mp hs with hs | hs
      · exact h.named up (by rw [hup]; simp) s hs
      · rw [List.mem_singleton.mp hs]
        exact hlast
    · rw [node?_put_of_ne fs hself] at hheld
      exact h.named l hheld s hs

theorem createFolder (h : fs.Sound) {path : String} (hcreated : fs.createFolder path = .ok fs') :
    fs'.Sound := by
  unfold FileSystem.createFolder at hcreated
  split at hcreated
  · cases hcreated
  · rename_i k slash hfree
    cases hcreated
    have hnone := resolve_free_node hfree
    obtain ⟨up, last, rfl, hup, hlast⟩ := h.resolve_free hfree
    exact h.put hup hlast hnone .folder
  · cases hcreated

theorem createSteps (h : fs.Sound) (steps : List String) : (fs.createSteps steps).1.Sound := by
  induction steps generalizing fs with
  | nil => exact h
  | cons step rest ih =>
      unfold FileSystem.createSteps
      split
      · exact ih h
      · exact h
      · split
        · rename_i fs' hcreated
          exact ih (h.createFolder hcreated)
        · exact h

/-- Making a folder keeps a file system sound, even when it fails. -/
theorem createFolders (h : fs.Sound) (path : String) : (fs.createFolders path).1.Sound := by
  unfold FileSystem.createFolders
  split
  · exact h
  · split
    · exact h
    · exact h.createSteps _

/-- A file system stays sound if its folders stay and nothing is added. -/
theorem of_kept (h : fs.Sound) (hsorted : Sorted fs'.nodes) (hworking : fs'.working = fs.working)
    (hfolder : ∀ l, fs.node? l = some .folder → fs'.node? l = some .folder)
    (hheld : ∀ l, fs'.node? l ≠ none → fs.node? l ≠ none) : fs'.Sound where
  sorted := hsorted
  folders := fun l s hl => hfolder l (h.folders l s (hheld _ hl))
  named := fun l hl => h.named l (hheld l hl)
  based := hworking ▸ hfolder _ h.based

/-- A file may be put in the place of a file. -/
theorem put_file (h : fs.Sound) {l : Location} {old : List UInt8}
    (hfile : fs.node? l = some (.file old)) (bytes : List UInt8) :
    (fs.put l (.file bytes)).Sound := by
  refine h.of_kept (sorted_put h.sorted _ _) rfl (fun k hk => ?_) fun k hk => ?_
  · rw [node?_put_of_ne, hk]
    rintro rfl
    rw [hk] at hfile
    cases hfile
  · by_cases hself : k = l
    · rw [hself, hfile]
      simp
    · rwa [node?_put_of_ne fs hself] at hk

/-- Writing a file keeps a file system sound. -/
theorem writeFile (h : fs.Sound) {path : String} {bytes : List UInt8}
    (hwritten : fs.writeFile path bytes = .ok fs') : fs'.Sound := by
  unfold FileSystem.writeFile at hwritten
  split at hwritten
  · cases hwritten
  · rename_i l old hheld
    cases hwritten
    exact h.put_file (h.resolve_held hheld) bytes
  · cases hwritten
  · rename_i l hfree
    cases hwritten
    have hnone := resolve_free_node hfree
    obtain ⟨up, last, rfl, hup, hlast⟩ := h.resolve_free hfree
    exact h.put hup hlast hnone (.file bytes)
  · cases hwritten

/-- As nothing lies below a file, removing its tree removes the file alone. -/
theorem node?_removeTree_file (h : fs.Sound) {l k : Location} {bytes : List UInt8}
    (hfile : fs.node? l = some (.file bytes)) (hne : k ≠ l) :
    (fs.removeTree l).node? k = fs.node? k := by
  by_cases hbelow : l <+: k
  · have hnone : fs.node? k = none := by
      by_contra hheld
      exact hne (h.eq_of_file hfile hbelow hheld)
    have hk : k ≠ [] := by
      rintro rfl
      cases hnone
    rw [FileSystem.node?_removeTree_of_prefix fs hk hbelow, hnone]
  · exact node?_removeTree_of_not_prefix fs hbelow

theorem removeTree_file (h : fs.Sound) {l : Location} {bytes : List UInt8}
    (hfile : fs.node? l = some (.file bytes)) : (fs.removeTree l).Sound := by
  refine h.of_kept (sorted_removeTree h.sorted _) rfl (fun k hk => ?_) fun k hk => ?_
  · rw [h.node?_removeTree_file hfile, hk]
    rintro rfl
    rw [hk] at hfile
    cases hfile
  · by_cases hself : k = l
    · rw [hself, hfile]
      simp
    · rwa [h.node?_removeTree_file hfile hself] at hk

/-- What is removed as a file is one, and lies where its path lands. -/
theorem removeFile_file (h : fs.Sound) {path : String} (hremoved : fs.removeFile path = .ok fs') :
    fs' = fs.removeTree (landingOf fs.working path) ∧
      ∃ bytes, fs.node? (landingOf fs.working path) = some (.file bytes) := by
  unfold FileSystem.removeFile at hremoved
  split at hremoved
  · rename_i l bytes hheld
    cases hremoved
    obtain rfl : l = landingOf fs.working path := resolve_lands hheld
    exact ⟨rfl, bytes, h.resolve_held hheld⟩
  · cases hremoved
  · cases hremoved
  · cases hremoved

end Sound

/-! ## Paths down from a folder -/

/-- Names lead from folder to folder. -/
theorem walk_folders {fs : FileSystem} {l rel : Location} (hnames : ∀ s ∈ rel, IsName s)
    (habove : ∀ k, k ≠ [] → k <+: rel → fs.node? (l ++ k) = some .folder) :
    fs.walk false l .folder rel = .ok (.held (l ++ rel) .folder) := by
  induction rel generalizing l with
  | nil => exact walk_nil_eq_ok.2 ⟨by rw [List.append_nil], fun _ => rfl⟩
  | cons s rest ih =>
      obtain ⟨hname, hrest⟩ := List.forall_mem_cons.mp hnames
      have hfolder : fs.node? (l ++ [s]) = some .folder :=
        habove [s] (List.cons_ne_nil _ _) ⟨rest, rfl⟩
      have hwalk := ih (l := l ++ [s]) hrest fun k hk hinto => by
        have hbelow := habove (s :: k) (List.cons_ne_nil _ _)
          (List.cons_prefix_cons.mpr ⟨rfl, hinto⟩)
        simpa using hbelow
      rw [List.append_assoc, List.singleton_append] at hwalk
      exact walk_cons_iff.2 ⟨rfl, Or.inr (Or.inr ⟨hname.dot, hname.dots, hname.short,
        Or.inl ⟨.folder, hfolder, hwalk⟩⟩)⟩

/-- From where a path leads to a folder, another one leads down through folders to a name. -/
structure Descends (fs : FileSystem) (base path : String) (up : Location) (last : String) :
    Prop where
  leads : fs.LeadsToFolder base
  start : isAbsolute path = isAbsolute base
  steps : stepsOf path = stepsOf base ++ (up ++ [last])
  names : ∀ s ∈ up ++ [last], IsName s
  above : ∀ k, k ≠ [] → k <+: up → fs.node? (landingOf fs.working base ++ k) = some .folder
  acceptable : Acceptable path

namespace Descends

variable {fs : FileSystem} {base path : String} {up : Location} {last : String}

theorem startOf_eq (h : Descends fs base path up last) :
    startOf fs.working path = startOf fs.working base := by
  unfold startOf
  rw [h.start]

theorem steps_ne_nil (h : Descends fs base path up last) : stepsOf path ≠ [] := by
  rw [h.steps]
  simp

/-- All but the last step of the path lead to a folder. -/
theorem walk_above (h : Descends fs base path up last) :
    fs.walk false (startOf fs.working path) .folder (stepsOf base ++ up) =
      .ok (.held (landingOf fs.working base ++ up) .folder) := by
  have hnames := fun s hs => h.names s (List.mem_append_left [last] hs)
  rw [h.startOf_eq]
  by_cases hup : up = []
  · rw [hup, List.append_nil, List.append_nil]
    exact h.leads
  · exact (walk_append_iff hup).mpr ⟨h.leads, walk_folders hnames h.above⟩

/-- Where the path leads is what its last name holds. -/
theorem resolve_iff (h : Descends fs base path up last) {place : Place} :
    fs.resolve path = .ok place ↔
      (∃ m, fs.node? (landingOf fs.working base ++ (up ++ [last])) = some m ∧
        place = .held (landingOf fs.working base ++ (up ++ [last])) m ∧
        (path.toList.getLast? = some '/' → m = .folder)) ∨
      (fs.node? (landingOf fs.working base ++ (up ++ [last])) = none ∧
        place = .free (landingOf fs.working base ++ (up ++ [last]))
          (path.toList.getLast? == some '/')) := by
  have hgiven : path ≠ "" := by
    rintro rfl
    exact h.steps_ne_nil rfl
  have hlast := h.names last (by simp)
  have habove := h.walk_above
  have hlands := walk_lands habove
  change landingOf fs.working base ++ up = _ at hlands
  rw [resolve_of_acceptable h.acceptable hgiven, h.steps, ← List.append_assoc,
    walk_append_iff (List.cons_ne_nil _ _), ← hlands, ← List.append_assoc, walk_cons_iff]
  simp only [habove, true_and, hlast.dot, hlast.dots, hlast.short, false_and, false_or, ne_eq,
    not_false_eq_true, walk_nil_eq_ok, beq_iff_eq]

/-- The folder that holds what the path leads to is there. -/
theorem leadsToFolder_parent (h : Descends fs base path up last) {folder : String}
    (hparent : parent? path = some folder) : fs.LeadsToFolder folder := by
  obtain ⟨hstart, more, hmore, hsegments⟩ := parent?_segments hparent
  obtain ⟨before, s, rfl⟩ := (List.eq_nil_or_concat' more).resolve_left hmore
  have hsteps : stepsOf path = (stepsOf folder ++ before.map String.ofList) ++
      [String.ofList s] := by
    unfold stepsOf
    rw [hsegments]
    simp
  rw [h.steps, ← List.append_assoc] at hsteps
  obtain ⟨habove, -⟩ := List.append_inj' hsteps rfl
  have hwalk := h.walk_above
  rw [habove] at hwalk
  have hfolder := walk_of_append hwalk
  unfold LeadsToFolder landingOf startOf
  rw [hstart]
  exact hfolder

theorem exists_parent (h : Descends fs base path up last) :
    ∃ folder, parent? path = some folder := by
  refine Option.ne_none_iff_exists'.mp fun hnone => ?_
  have hdot := eq_dot_of_no_parent hnone (s := last) (by rw [h.steps]; simp)
  exact (h.names last (by simp)).dot hdot

end Descends

end FileSystem

end FormScaffold.Files
