import FormScaffold.Proofs.Files.Nodes
import FormScaffold.Proofs.Path.Names

/-!
# Where paths land

Resolving a path is a walk through its segments, those that are empty left out.  Without `..`
the steps that lead somewhere else are the names of the path.

Without links a path can only lead to one location, which its text and the working folder tell: a
name leads one folder down, `..` one up.  What a file system holds decides whether the path leads
anywhere, not where.  So an operation on a path changes the location where the path lands and no
other, and what was written to a path is read from it until the location is written again.
-/

namespace FormScaffold.Files

open Path

namespace FileSystem

/-! ## Steps along a path -/

/-- The steps that resolving a path takes. -/
def stepsOf (path : String) : List String :=
  ((segmentsOf path.toList).filter fun s => !s.isEmpty).map String.ofList

/-- The steps that lead somewhere else. -/
def proper (steps : List String) : List String := steps.filter fun s => s != "."

theorem ofList_eq_iff {cs : List Char} {s : String} : String.ofList cs = s ↔ cs = s.toList := by
  rw [← String.toList_inj, String.toList_ofList]

/-- The proper steps of a path that does not climb are its names. -/
theorem proper_stepsOf {path : String} (h : ¬ Climbs path) :
    ".." ∉ stepsOf path ∧ proper (stepsOf path) = names path := by
  rw [climbs_iff] at h
  unfold stepsOf proper names
  generalize segmentsOf path.toList = segments at h
  induction segments with
  | nil => simp
  | cons s rest ih =>
      simp only [List.mem_cons, not_or] at h
      obtain ⟨hclimbs, hproper⟩ := ih h.2
      have hdots : ".." ≠ String.ofList s := by
        intro heq
        rw [eq_comm, ofList_eq_iff] at heq
        exact h.1 heq.symm
      -- Empty segments and dots are dropped on both sides.
      by_cases hempty : s = []
      · subst hempty
        exact ⟨hclimbs, by simpa [segmentName?, segmentComponent?] using hproper⟩
      · rw [List.filter_cons_of_pos (by simpa using hempty), List.map_cons]
        refine ⟨fun hmem => ?_, ?_⟩
        · rcases List.mem_cons.mp hmem with heq | hmem
          · exact hdots heq
          · exact hclimbs hmem
        · by_cases hdot : s = ['.']
          · rw [hdot, List.filter_cons_of_neg (by decide), List.filterMap_cons]
            exact hproper
          · have hname := segmentName?_of_ne hempty hdot fun heq => h.1 heq.symm
            have hne : String.ofList s ≠ "." := fun heq => hdot (ofList_eq_iff.mp heq)
            rw [List.filter_cons_of_pos (by simpa using hne), List.filterMap_cons, hname]
            simp only []
            rw [hproper]

theorem proper_cons {s : String} (h : s ≠ ".") (rest : List String) :
    proper (s :: rest) = s :: proper rest := by
  simp [proper, h]

/-! ## Walks and paths -/

/-- A free place holds nothing. -/
theorem walk_free {fs : FileSystem} {slash flag : Bool} {steps : List String} {l k : Location}
    {n : Node} (h : fs.walk slash l n steps = .ok (.free k flag)) : fs.node? k = none := by
  induction steps generalizing l n with
  | nil =>
      simp only [walk] at h
      split at h <;> cases h
  | cons s rest ih =>
      unfold walk at h
      split at h
      · cases h
      · split at h
        · exact ih h
        · split at h
          · exact ih h
          · split at h
            · cases h
            · split at h
              · exact ih h
              · rename_i hnode
                split at h
                · cases h
                  exact hnode
                · cases h

/-- The location that a path starts from. -/
def startOf (working : Location) (path : String) : Location :=
  if isAbsolute path then [] else working

/-- Where some file system lets a path be resolved, any other walks along it as well. -/
theorem resolve_of_ok {fs fs' : FileSystem} {path : String} {place : Place}
    (h : fs.resolve path = .ok place) :
    fs'.resolve path =
      fs'.walk (path.toList.getLast? == some '/') (startOf fs'.working path) .folder
        (stepsOf path) := by
  unfold resolve at h ⊢
  by_cases hnul : path.toList.contains (Char.ofNat 0) = true
  · rw [if_pos hnul] at h
    cases h
  rw [if_neg hnul] at h ⊢
  by_cases hgiven : (path == "") = true
  · rw [if_pos hgiven] at h
    cases h
  rw [if_neg hgiven] at h ⊢
  by_cases hlong : pathLimit ≤ path.utf8ByteSize
  · rw [if_pos hlong] at h
    cases h
  rw [if_neg hlong]
  rfl

theorem resolve_walk {fs : FileSystem} {path : String} {place : Place}
    (h : fs.resolve path = .ok place) :
    fs.walk (path.toList.getLast? == some '/') (startOf fs.working path) .folder (stepsOf path)
      = .ok place := by
  rw [← resolve_of_ok h]
  exact h

/-- A free place holds nothing. -/
theorem resolve_free_node {fs : FileSystem} {path : String} {l : Location} {slash : Bool}
    (h : fs.resolve path = .ok (.free l slash)) : fs.node? l = none :=
  walk_free (resolve_walk h)

end FileSystem

/-! ## Locations of paths -/

/-- Where steps lead from a location. -/
def landing (l : Location) : List String → Location
  | [] => l
  | s :: rest =>
      if s == "." then landing l rest
      else if s == ".." then landing l.dropLast rest
      else landing (l ++ [s]) rest

/-- Where a path leads, if it leads anywhere. -/
def landingOf (working : Location) (path : String) : Location :=
  landing (FileSystem.startOf working path) (FileSystem.stepsOf path)

/-- The location of a place. -/
def Place.location : Place → Location
  | held l _ => l
  | free l _ => l

theorem landing_dot (l : Location) (rest : List String) :
    landing l ("." :: rest) = landing l rest := rfl

theorem landing_name (l : Location) {s : String} (hdot : s ≠ ".") (hdots : s ≠ "..")
    (rest : List String) : landing l (s :: rest) = landing (l ++ [s]) rest := by
  rw [landing, if_neg (by simpa using hdot), if_neg (by simpa using hdots)]

theorem landing_append (l : Location) (first second : List String) :
    landing l (first ++ second) = landing (landing l first) second := by
  induction first generalizing l with
  | nil => rfl
  | cons s rest ih =>
      rw [List.cons_append, landing, landing]
      split
      · exact ih l
      · split
        · exact ih l.dropLast
        · exact ih (l ++ [s])

/-- Steps that do not climb lead down. -/
theorem landing_down (l : Location) {steps : List String} (h : ".." ∉ steps) :
    landing l steps = l ++ FileSystem.proper steps := by
  induction steps generalizing l with
  | nil => simp [landing, FileSystem.proper]
  | cons s rest ih =>
      simp only [List.mem_cons, not_or] at h
      by_cases hdot : s = "."
      · subst hdot
        rw [landing_dot, ih l h.2]
        rfl
      · rw [landing_name l hdot (Ne.symm h.1), ih _ h.2, FileSystem.proper_cons hdot,
          List.append_assoc, List.singleton_append]

namespace FileSystem

/-! ## Walks -/

/-- A step starts from a folder.  A dot stays there, two dots lead up, and a name leads on to what
it holds or, as the last step, to a free place. -/
theorem walk_cons_iff {fs : FileSystem} {slash : Bool} {s : String} {rest : List String}
    {l : Location} {n : Node} {place : Place} :
    fs.walk slash l n (s :: rest) = .ok place ↔ n = .folder ∧
      (s = "." ∧ fs.walk slash l n rest = .ok place ∨
        s = ".." ∧ fs.walk slash l.dropLast .folder rest = .ok place ∨
        s ≠ "." ∧ s ≠ ".." ∧ s.utf8ByteSize ≤ nameLimit ∧
          ((∃ m, fs.node? (l ++ [s]) = some m ∧
              fs.walk slash (l ++ [s]) m rest = .ok place) ∨
            (fs.node? (l ++ [s]) = none ∧ rest = [] ∧ place = .free (l ++ [s]) slash))) := by
  rw [walk]
  by_cases hfolder : n = .folder
  · by_cases hdot : s = "."
    · simp [hfolder, hdot]
    by_cases hdots : s = ".."
    · simp [hfolder, hdots]
    by_cases hlong : nameLimit < s.utf8ByteSize
    · simp [hfolder, hdot, hdots, hlong, Nat.not_le.mpr hlong]
    · have hshort := Nat.not_lt.mp hlong
      cases hnode : fs.node? (l ++ [s]) with
      | some m => simp [hfolder, hdot, hdots, hlong, hshort]
      | none =>
          cases rest with
          | nil => simpa [hfolder, hdot, hdots, hlong, hshort] using eq_comm
          | cons d more => simp [hfolder, hdot, hdots, hlong, hshort]
  · simp [hfolder]

theorem walk_nil_eq_ok {fs : FileSystem} {slash : Bool} {l : Location} {n : Node} {place : Place} :
    fs.walk slash l n [] = .ok place ↔
      place = .held l n ∧ (slash = true → n = .folder) := by
  rw [walk]
  cases slash with
  | false => simpa using eq_comm
  | true =>
      by_cases hfolder : n = .folder
      · simpa [hfolder] using eq_comm
      · simp [hfolder]

/-- A walk ends where its steps land. -/
theorem walk_lands {fs : FileSystem} {slash : Bool} {steps : List String} {l : Location} {n : Node}
    {place : Place} (h : fs.walk slash l n steps = .ok place) :
    place.location = landing l steps := by
  induction steps generalizing l n with
  | nil =>
      rw [(walk_nil_eq_ok.1 h).1]
      rfl
  | cons s rest ih =>
      obtain ⟨-, ⟨rfl, hwalk⟩ | ⟨rfl, hwalk⟩ | ⟨hdot, hdots, -, ⟨m, -, hwalk⟩ | ⟨-, rfl, rfl⟩⟩⟩ :=
        walk_cons_iff.1 h
      · exact ih hwalk
      · exact ih hwalk
      · rw [landing_name l hdot hdots]
        exact ih hwalk
      · rw [landing_name l hdot hdots]
        rfl

/-- A walk that goes on is a walk to a folder and one from there. -/
theorem walk_append_iff {fs : FileSystem} {slash : Bool} {first second : List String} {l : Location}
    {n : Node} {place : Place} (hsecond : second ≠ []) :
    fs.walk slash l n (first ++ second) = .ok place ↔
      fs.walk false l n first = .ok (.held (landing l first) .folder) ∧
        fs.walk slash (landing l first) .folder second = .ok place := by
  induction first generalizing l n with
  | nil =>
      obtain ⟨s, rest, rfl⟩ := List.exists_cons_of_ne_nil hsecond
      rw [List.nil_append, walk_nil_eq_ok]
      constructor
      · intro h
        obtain rfl := (walk_cons_iff.1 h).1
        exact ⟨⟨rfl, fun _ => rfl⟩, h⟩
      · rintro ⟨⟨hplace, -⟩, h⟩
        cases hplace
        exact h
  | cons s rest ih =>
      rw [List.cons_append, walk_cons_iff, walk_cons_iff]
      by_cases hdot : s = "."
      · subst hdot
        simp [landing_dot, ih, and_assoc]
      by_cases hdots : s = ".."
      · subst hdots
        have hup : landing l (".." :: rest) = landing l.dropLast rest := rfl
        simp [hup, ih, and_assoc]
      · rw [landing_name l hdot hdots]
        simp only [hdot, hdots, false_and, false_or, ne_eq, not_false_eq_true, true_and]
        simp only [ih]
        constructor
        · rintro ⟨hn, hshort, ⟨m, hnode, hfirst, hrest⟩ | ⟨-, hempty, -⟩⟩
          · exact ⟨⟨hn, hshort, Or.inl ⟨m, hnode, hfirst⟩⟩, hrest⟩
          · exact absurd (List.append_eq_nil_iff.mp hempty).2 hsecond
        · rintro ⟨⟨hn, hshort, ⟨m, hnode, hfirst⟩ | ⟨-, -, hfree⟩⟩, hrest⟩
          · exact ⟨hn, hshort, Or.inl ⟨m, hnode, hfirst, hrest⟩⟩
          · cases hfree

/-- What a walk finds is a folder or what its location holds. -/
theorem walk_held_node {fs : FileSystem} {slash : Bool} {steps : List String} {l k : Location}
    {n m : Node} (hstart : n = .folder ∨ fs.node? l = some n)
    (h : fs.walk slash l n steps = .ok (.held k m)) : m = .folder ∨ fs.node? k = some m := by
  induction steps generalizing l n with
  | nil =>
      obtain ⟨hplace, -⟩ := walk_nil_eq_ok.1 h
      cases hplace
      exact hstart
  | cons s rest ih =>
      obtain ⟨-, ⟨rfl, hwalk⟩ | ⟨rfl, hwalk⟩ | ⟨-, -, -, ⟨m', hnode, hwalk⟩ | ⟨-, -, hfree⟩⟩⟩ :=
        walk_cons_iff.1 h
      · exact ih hstart hwalk
      · exact ih (Or.inl rfl) hwalk
      · exact ih (Or.inr hnode) hwalk
      · cases hfree

/-- What a file can be written to: a free place, or one that holds a file. -/
def Writable (l : Location) (place : Place) : Prop :=
  place = .free l false ∨ ∃ old, place = .held l (.file old)

/-- A walk on from a file says nothing more. -/
theorem walk_file {fs : FileSystem} {slash : Bool} {steps : List String} {l : Location}
    {bytes : List UInt8} {place : Place} (h : fs.walk slash l (.file bytes) steps = .ok place) :
    steps = [] ∧ slash = false ∧ place = .held l (.file bytes) := by
  cases steps with
  | nil =>
      obtain ⟨hplace, hslash⟩ := walk_nil_eq_ok.1 h
      refine ⟨rfl, ?_, hplace⟩
      cases slash with
      | false => rfl
      | true => cases hslash rfl
  | cons s rest => cases (walk_cons_iff.1 h).1

/-- Where a file can be written, a walk finds the file once it is written. -/
theorem walk_put_self {fs : FileSystem} {slash : Bool} {steps : List String} {l k : Location}
    {place : Place} (bytes : List UInt8) (h : fs.walk slash l .folder steps = .ok place)
    (hplace : Writable k place) :
    (fs.put k (.file bytes)).walk slash l .folder steps = .ok (.held k (.file bytes)) := by
  have hk : fs.node? k ≠ some .folder := by
    rcases hplace with rfl | ⟨old, rfl⟩
    · rw [walk_free h]
      simp
    · rcases walk_held_node (Or.inl rfl) h with hfolder | hnode
      · cases hfolder
      · rw [hnode]
        simp
  induction steps generalizing l with
  | nil =>
      obtain ⟨rfl, -⟩ := walk_nil_eq_ok.1 h
      rcases hplace with hplace | ⟨old, hplace⟩ <;> cases hplace
  | cons s rest ih =>
      obtain ⟨-, ⟨rfl, hwalk⟩ | ⟨rfl, hwalk⟩ | ⟨hdot, hdots, hshort, hnext⟩⟩ := walk_cons_iff.1 h
      · exact walk_cons_iff.2 ⟨rfl, Or.inl ⟨rfl, ih hwalk⟩⟩
      · exact walk_cons_iff.2 ⟨rfl, Or.inr (Or.inl ⟨rfl, ih hwalk⟩)⟩
      refine walk_cons_iff.2 ⟨rfl, Or.inr (Or.inr ⟨hdot, hdots, hshort, Or.inl ?_⟩)⟩
      rcases hnext with ⟨m, hnode, hwalk⟩ | ⟨-, rfl, rfl⟩
      · cases m with
        | folder =>
            -- The file is not written to a folder on the way.
            have hne : l ++ [s] ≠ k := by
              rintro rfl
              exact hk hnode
            exact ⟨.folder, by rw [node?_put_of_ne fs hne, hnode], ih hwalk⟩
        | file old =>
            obtain ⟨rfl, rfl, rfl⟩ := walk_file hwalk
            rcases hplace with hplace | ⟨old', hplace⟩ <;> cases hplace
            exact ⟨.file bytes, node?_put_self fs (by simp) _, walk_nil_eq_ok.2 ⟨rfl, by simp⟩⟩
      · rcases hplace with hplace | ⟨old', hplace⟩ <;> cases hplace
        exact ⟨.file bytes, node?_put_self fs (by simp) _, walk_nil_eq_ok.2 ⟨rfl, by simp⟩⟩

/-- A walk to a file still finds it when a file is written somewhere else. -/
theorem walk_put_other {fs : FileSystem} {slash : Bool} {steps : List String} {l k q : Location}
    {bytes old : List UInt8} (hk : fs.node? k ≠ some .folder) (hne : q ≠ k)
    (h : fs.walk slash l .folder steps = .ok (.held q (.file old))) :
    (fs.put k (.file bytes)).walk slash l .folder steps = .ok (.held q (.file old)) := by
  induction steps generalizing l with
  | nil =>
      obtain ⟨hplace, -⟩ := walk_nil_eq_ok.1 h
      cases hplace
  | cons s rest ih =>
      obtain ⟨-, ⟨rfl, hwalk⟩ | ⟨rfl, hwalk⟩ |
          ⟨hdot, hdots, hshort, ⟨m, hnode, hwalk⟩ | ⟨-, -, hfree⟩⟩⟩ := walk_cons_iff.1 h
      · exact walk_cons_iff.2 ⟨rfl, Or.inl ⟨rfl, ih hwalk⟩⟩
      · exact walk_cons_iff.2 ⟨rfl, Or.inr (Or.inl ⟨rfl, ih hwalk⟩)⟩
      · refine walk_cons_iff.2 ⟨rfl, Or.inr (Or.inr ⟨hdot, hdots, hshort, Or.inl ⟨m, ?_, ?_⟩⟩)⟩
        · -- The step leads to a folder or to the file itself.
          have hother : l ++ [s] ≠ k := by
            rintro rfl
            cases m with
            | folder => exact hk hnode
            | file bytes' =>
                obtain ⟨-, -, hplace⟩ := walk_file hwalk
                cases hplace
                exact hne rfl
          rw [node?_put_of_ne fs hother, hnode]
        · cases m with
          | folder => exact ih hwalk
          | file bytes' =>
              obtain ⟨rfl, rfl, hplace⟩ := walk_file hwalk
              exact walk_nil_eq_ok.2 ⟨hplace, by simp⟩
      · cases hfree

/-! ## Paths -/

/-- A path that leads somewhere leads where it lands. -/
theorem resolve_lands {fs : FileSystem} {path : String} {place : Place}
    (h : fs.resolve path = .ok place) : place.location = landingOf fs.working path :=
  walk_lands (resolve_walk h)

theorem resolve_held_node {fs : FileSystem} {path : String} {l : Location} {n : Node}
    (h : fs.resolve path = .ok (.held l n)) : n = .folder ∨ fs.node? l = some n :=
  walk_held_node (Or.inl rfl) (resolve_walk h)

/-- What can be written to holds no folder. -/
theorem Writable.node_ne {fs : FileSystem} {path : String} {l : Location} {place : Place}
    (hplace : Writable l place) (h : fs.resolve path = .ok place) : fs.node? l ≠ some .folder := by
  rcases hplace with rfl | ⟨old, rfl⟩
  · rw [resolve_free_node h]
    simp
  · rcases resolve_held_node h with hfolder | hnode
    · cases hfolder
    · rw [hnode]
      simp

/-! ## Operations -/

/-- A file is written where its path lands. -/
theorem writeFile_eq_ok {fs fs' : FileSystem} {path : String} {bytes : List UInt8}
    (h : fs.writeFile path bytes = .ok fs') :
    fs' = fs.put (landingOf fs.working path) (.file bytes) ∧
      ∃ place, fs.resolve path = .ok place ∧ Writable (landingOf fs.working path) place := by
  unfold writeFile at h
  split at h
  · cases h
  · rename_i l old hresolve
    cases h
    rw [← resolve_lands hresolve]
    exact ⟨rfl, _, hresolve, Or.inr ⟨old, rfl⟩⟩
  · cases h
  · rename_i l hresolve
    cases h
    rw [← resolve_lands hresolve]
    exact ⟨rfl, _, hresolve, Or.inl rfl⟩
  · cases h

theorem working_of_writeFile {fs fs' : FileSystem} {path : String} {bytes : List UInt8}
    (h : fs.writeFile path bytes = .ok fs') : fs'.working = fs.working := by
  rw [(writeFile_eq_ok h).1, put_working]

/-- What a file is written to held no folder. -/
theorem node?_of_writeFile {fs fs' : FileSystem} {path : String} {bytes : List UInt8}
    (h : fs.writeFile path bytes = .ok fs') :
    fs.node? (landingOf fs.working path) ≠ some .folder := by
  obtain ⟨-, place, hresolve, hplace⟩ := writeFile_eq_ok h
  exact hplace.node_ne hresolve

/-- A path at which a file was written leads to the file. -/
theorem resolve_writeFile {fs fs' : FileSystem} {path : String} {bytes : List UInt8}
    (h : fs.writeFile path bytes = .ok fs') :
    fs'.resolve path = .ok (.held (landingOf fs.working path) (.file bytes)) := by
  obtain ⟨rfl, place, hresolve, hplace⟩ := writeFile_eq_ok h
  rw [resolve_of_ok hresolve]
  exact walk_put_self bytes (resolve_walk hresolve) hplace

/-- A path that leads to a file still leads there when another location is written. -/
theorem resolve_put_other {fs : FileSystem} {path : String} {q k : Location}
    {bytes old : List UInt8} (hk : fs.node? k ≠ some .folder) (hne : q ≠ k)
    (h : fs.resolve path = .ok (.held q (.file old))) :
    (fs.put k (.file bytes)).resolve path = .ok (.held q (.file old)) := by
  rw [resolve_of_ok h]
  exact walk_put_other hk hne (resolve_walk h)

/-- Writing a file elsewhere leaves a file to be found. -/
theorem resolve_writeFile_other {fs fs' : FileSystem} {path other : String} {q : Location}
    {bytes old : List UInt8} (h : fs.writeFile other bytes = .ok fs')
    (hne : q ≠ landingOf fs.working other) (hfound : fs.resolve path = .ok (.held q (.file old))) :
    fs'.resolve path = .ok (.held q (.file old)) := by
  have hnode := node?_of_writeFile h
  obtain ⟨rfl, -⟩ := writeFile_eq_ok h
  exact resolve_put_other hnode hne hfound

theorem createFolder_eq_ok {fs fs' : FileSystem} {path : String}
    (h : fs.createFolder path = .ok fs') :
    fs' = fs.put (landingOf fs.working path) .folder ∧
      fs.node? (landingOf fs.working path) = none := by
  unfold createFolder at h
  split at h
  · cases h
  · rename_i l slash hresolve
    cases h
    rw [← resolve_lands hresolve]
    exact ⟨rfl, resolve_free_node hresolve⟩
  · cases h

theorem removeFolder_eq_ok {fs fs' : FileSystem} {path : String}
    (h : fs.removeFolder path = .ok fs') : fs' = fs.removeTree (landingOf fs.working path) := by
  unfold removeFolder at h
  split at h
  · rename_i l hresolve
    cases h
    rw [← resolve_lands hresolve]
    rfl
  · cases h
  · cases h
  · cases h

theorem removeFile_eq_ok {fs fs' : FileSystem} {path : String}
    (h : fs.removeFile path = .ok fs') : fs' = fs.removeTree (landingOf fs.working path) := by
  unfold removeFile at h
  split at h
  · rename_i l bytes hresolve
    cases h
    rw [← resolve_lands hresolve]
    rfl
  · cases h
  · cases h
  · cases h

end FileSystem

/-! ## Joined paths -/

/-- A relative path joined onto a folder adds its steps to those of the folder. -/
theorem stepsOf_join {base path : String} (h : isAbsolute path = false) :
    FileSystem.stepsOf (join base path) = FileSystem.stepsOf base ++ FileSystem.stepsOf path := by
  obtain ⟨before, seam, hjoin, hbase, hseam⟩ := segmentsOf_join base h
  unfold FileSystem.stepsOf
  rw [hjoin, hbase, List.filter_append, List.filter_append, List.map_append, List.map_append]
  rcases hseam with rfl | rfl <;> simp

theorem startOf_join (working : Location) {base path : String} (h : isAbsolute path = false) :
    FileSystem.startOf working (join base path) = FileSystem.startOf working base := by
  unfold FileSystem.startOf
  rw [isAbsolute_join h]

/-- A relative path that does not climb lands below the folder that it is joined onto. -/
theorem landingOf_join (working : Location) {base path : String} (h : isAbsolute path = false)
    (hclimbs : ¬ Climbs path) :
    landingOf working (join base path) = landingOf working base ++ names path := by
  obtain ⟨hsteps, hnames⟩ := FileSystem.proper_stepsOf hclimbs
  unfold landingOf
  rw [startOf_join working h, stepsOf_join h, landing_append, landing_down _ hsteps, hnames]

end FormScaffold.Files

/-!
## Files with other bytes

Where a path leads does not depend on the bytes that files hold.
-/

namespace FormScaffold.Files

/-- What a path holds, a file with other bytes. -/
def Node.refill (f : List UInt8 → List UInt8) : Node → Node
  | .folder => .folder
  | .file bytes => .file (f bytes)

/-- The same folders and files, the files with other bytes. -/
def FileSystem.refill (f : List UInt8 → List UInt8) (fs : FileSystem) : FileSystem :=
  { fs with nodes := fs.nodes.map fun p => (p.1, p.2.refill f) }

namespace FileSystem

variable (f : List UInt8 → List UInt8) (fs : FileSystem)

theorem node?_refill (l : Location) : (fs.refill f).node? l = (fs.node? l).map (Node.refill f) := by
  cases l with
  | nil => rfl
  | cons s l =>
      change (fs.nodes.map _).lookup (s :: l) = (fs.nodes.lookup (s :: l)).map _
      induction fs.nodes with
      | nil => rfl
      | cons p nodes ih =>
          rw [List.map_cons, List.lookup_cons, List.lookup_cons]
          cases s :: l == p.1 with
          | true => rfl
          | false => exact ih

/-- Files with other bytes are found on the same ways. -/
theorem walk_refill {slash : Bool} {steps : List String} {l k : Location} {n m : Node}
    (h : fs.walk slash l n steps = .ok (.held k m)) :
    (fs.refill f).walk slash l (n.refill f) steps = .ok (.held k (m.refill f)) := by
  induction steps generalizing l n with
  | nil =>
      obtain ⟨hheld, hslash⟩ := walk_nil_eq_ok.1 h
      cases hheld
      exact walk_nil_eq_ok.2 ⟨rfl, fun hend => by rw [hslash hend]; rfl⟩
  | cons s rest ih =>
      obtain ⟨rfl, hstep⟩ := walk_cons_iff.1 h
      refine walk_cons_iff.2 ⟨rfl, ?_⟩
      obtain ⟨hdot, hrest⟩ | ⟨hdots, hrest⟩ | ⟨hdot, hdots, hshort, hname⟩ := hstep
      · exact .inl ⟨hdot, ih hrest⟩
      · exact .inr (.inl ⟨hdots, ih hrest⟩)
      · obtain ⟨next, hnode, hrest⟩ | ⟨-, -, hfree⟩ := hname
        · refine .inr (.inr ⟨hdot, hdots, hshort, .inl ⟨next.refill f, ?_, ih hrest⟩⟩)
          rw [node?_refill, hnode]
          rfl
        · cases hfree

theorem stat_refill {path : String} {n : Node} (h : fs.stat path = .ok n) :
    (fs.refill f).stat path = .ok (n.refill f) := by
  obtain ⟨k, hheld⟩ : ∃ k, fs.resolve path = .ok (.held k n) := by
    unfold stat at h
    split at h
    · rename_i k m hplace
      cases h
      exact ⟨k, hplace⟩
    · cases h
    · cases h
  have hthere : (fs.refill f).resolve path = .ok (.held k (n.refill f)) :=
    (resolve_of_ok hheld).trans (walk_refill f fs (n := .folder) (resolve_walk hheld))
  unfold stat
  rw [hthere]

end FileSystem

end FormScaffold.Files
