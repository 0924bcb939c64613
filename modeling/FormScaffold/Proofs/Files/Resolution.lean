import FormScaffold.Proofs.Files.Landing

/-!
# Where paths lead

A path that does not climb leads to the location that its names tell, whatever the file
system holds there; what is there, and whether it is free, is what a lookup of the location
says.  The operations on files therefore change exactly the location of their path, and what
was written to a path is read from it again.
-/

namespace FormScaffold.Files

open Path

/-- Where a path that does not climb leads. -/
def locationOf (working : Location) (path : String) : Location :=
  (if isAbsolute path then [] else working) ++ names path

namespace FileSystem

/-! ## Walks -/

/-- A step that does not climb starts from a folder.  A dot stays there, and a name leads on to
what it holds or, as the last step, to a free place. -/
theorem walk_cons_eq_ok {fs : FileSystem} {slash : Bool} {s : String} {rest : List String}
    {l : Location} {n : Node} {place : Place} (hclimbs : s ≠ "..") :
    fs.walk slash l n (s :: rest) = .ok place ↔ n = .folder ∧
      (s = "." ∧ fs.walk slash l n rest = .ok place ∨
        s ≠ "." ∧ s.utf8ByteSize ≤ nameLimit ∧
          ((∃ m, fs.node? (l ++ [s]) = some m ∧
              fs.walk slash (l ++ [s]) m rest = .ok place) ∨
            (fs.node? (l ++ [s]) = none ∧ rest = [] ∧ place = .free (l ++ [s]) slash))) := by
  rw [walk_cons_iff]
  simp [hclimbs]

/-- A walk that does not climb ends at the location that its steps tell. -/
theorem walk_ok {fs : FileSystem} {slash : Bool} {steps : List String} {l : Location} {n : Node}
    {place : Place} (hclimbs : ".." ∉ steps) (h : fs.walk slash l n steps = .ok place) :
    (∃ m, place = .held (l ++ proper steps) m ∧
      (proper steps = [] ∧ m = n ∨ fs.node? (l ++ proper steps) = some m)) ∨
    (place = .free (l ++ proper steps) slash ∧ fs.node? (l ++ proper steps) = none) := by
  induction steps generalizing l n with
  | nil =>
      simp only [walk] at h
      split at h
      · cases h
      · cases h
        exact Or.inl ⟨n, by simp [proper], Or.inl ⟨rfl, rfl⟩⟩
  | cons s rest ih =>
      simp only [List.mem_cons, not_or] at hclimbs
      obtain ⟨-, ⟨rfl, hwalk⟩ | ⟨hdot, -, ⟨m, hnode, hwalk⟩ | ⟨hnode, rfl, rfl⟩⟩⟩ :=
        (walk_cons_eq_ok (Ne.symm hclimbs.1)).mp h
      · exact ih hclimbs.2 hwalk
      · have happend : l ++ s :: proper rest = (l ++ [s]) ++ proper rest := by simp
        rw [proper_cons hdot, happend]
        rcases ih hclimbs.2 hwalk with ⟨m', hplace, hheld⟩ | hfree
        · refine Or.inl ⟨m', hplace, Or.inr ?_⟩
          rcases hheld with ⟨hnil, rfl⟩ | hheld
          · rw [hnil, List.append_nil]
            exact hnode
          · exact hheld
        · exact Or.inr hfree
      · rw [proper_cons hdot]
        exact Or.inr ⟨rfl, hnode⟩

/-- A walk finds nothing only where some location on the way holds nothing. -/
theorem walk_notFound {fs : FileSystem} {slash : Bool} {steps : List String} {l : Location}
    {n : Node} (hclimbs : ".." ∉ steps) (h : fs.walk slash l n steps = .error .notFound) :
    ∃ k, k <+: proper steps ∧ fs.node? (l ++ k) = none := by
  induction steps generalizing l n with
  | nil =>
      simp only [walk] at h
      split at h <;> cases h
  | cons s rest ih =>
      simp only [List.mem_cons, not_or] at hclimbs
      unfold walk at h
      split at h
      · cases h
      · by_cases hdot : s = "."
        · subst hdot
          rw [if_pos (by simp)] at h
          exact ih hclimbs.2 h
        · rw [if_neg (by simpa using hdot)] at h
          rw [if_neg (by simpa using fun heq => hclimbs.1 heq.symm)] at h
          rw [proper_cons hdot]
          split at h
          · cases h
          · split at h
            · obtain ⟨k, hk, hnode⟩ := ih hclimbs.2 h
              refine ⟨s :: k, List.cons_prefix_cons.mpr ⟨rfl, hk⟩, ?_⟩
              rw [← hnode]
              simp
            · rename_i hnode
              exact ⟨[s], List.cons_prefix_cons.mpr ⟨rfl, List.nil_prefix⟩, hnode⟩

/-- A walk depends on the locations on its way alone. -/
theorem walk_congr {fs fs' : FileSystem} {slash : Bool} {steps : List String} {l : Location}
    {n : Node} (hclimbs : ".." ∉ steps)
    (hsame : ∀ k, k ≠ [] → k <+: proper steps → fs'.node? (l ++ k) = fs.node? (l ++ k)) :
    fs'.walk slash l n steps = fs.walk slash l n steps := by
  induction steps generalizing l n with
  | nil => rfl
  | cons s rest ih =>
      simp only [List.mem_cons, not_or] at hclimbs
      unfold walk
      by_cases hdot : s = "."
      · subst hdot
        rw [ih hclimbs.2 hsame]
        rfl
      · have hdots : ¬ (s == "..") = true := by simpa using fun heq => hclimbs.1 heq.symm
        have hnode : fs'.node? (l ++ [s]) = fs.node? (l ++ [s]) := by
          refine hsame [s] (by simp) ?_
          rw [proper_cons hdot]
          exact List.cons_prefix_cons.mpr ⟨rfl, List.nil_prefix⟩
        have hrest : ∀ m, fs'.walk slash (l ++ [s]) m rest = fs.walk slash (l ++ [s]) m rest := by
          intro m
          refine ih hclimbs.2 fun k hk hinto => ?_
          have := hsame (s :: k) (by simp) (by
            rw [proper_cons hdot]
            exact List.cons_prefix_cons.mpr ⟨rfl, hinto⟩)
          simpa using this
        have hdot' : ¬ (s == ".") = true := by simpa using hdot
        simp only [hdot', hdots, Bool.false_eq_true, if_false, hnode, hrest]

/-- A walk that finds something finds something at every location on its way. -/
theorem walk_held_above {fs : FileSystem} {slash : Bool} {steps : List String} {l q : Location}
    {n m : Node} (hclimbs : ".." ∉ steps) (h : fs.walk slash l n steps = .ok (.held q m))
    {k : Location} (hk : k ≠ []) (hinto : k <+: proper steps) : fs.node? (l ++ k) ≠ none := by
  induction steps generalizing l n k with
  | nil => exact absurd (List.prefix_nil.mp hinto) hk
  | cons s rest ih =>
      simp only [List.mem_cons, not_or] at hclimbs
      obtain ⟨-, ⟨rfl, hwalk⟩ | ⟨hdot, -, ⟨m', hnode, hwalk⟩ | ⟨-, -, hfree⟩⟩⟩ :=
        (walk_cons_eq_ok (Ne.symm hclimbs.1)).mp h
      · exact ih hclimbs.2 hwalk hk hinto
      · rw [proper_cons hdot] at hinto
        obtain ⟨s', k, rfl⟩ := List.exists_cons_of_ne_nil hk
        obtain ⟨rfl, hrest⟩ := List.cons_prefix_cons.mp hinto
        -- Either this step is the location in question, or it lies further on.
        by_cases hnil : k = []
        · rw [hnil, hnode]
          exact Option.some_ne_none m'
        · have hheld := ih hclimbs.2 hwalk hnil hrest
          simpa using hheld
      · cases hfree

/-- A walk passes through folders only, until it ends. -/
theorem walk_folder_above {fs : FileSystem} {slash : Bool} {steps : List String} {l : Location}
    {n : Node} {place : Place} (hclimbs : ".." ∉ steps) (h : fs.walk slash l n steps = .ok place)
    {k : Location} (hk : k ≠ []) (hinto : k <+: proper steps) (hbefore : k ≠ proper steps) :
    fs.node? (l ++ k) = some .folder := by
  induction steps generalizing l n k with
  | nil => exact absurd (List.prefix_nil.mp hinto) hk
  | cons s rest ih =>
      simp only [List.mem_cons, not_or] at hclimbs
      obtain ⟨-, ⟨rfl, hwalk⟩ | ⟨hdot, -, hnext⟩⟩ :=
        (walk_cons_eq_ok (Ne.symm hclimbs.1)).mp h
      · exact ih hclimbs.2 hwalk hk hinto hbefore
      rw [proper_cons hdot] at hinto hbefore
      obtain ⟨s', k, rfl⟩ := List.exists_cons_of_ne_nil hk
      obtain ⟨rfl, hrest⟩ := List.cons_prefix_cons.mp hinto
      have hmore : k ≠ proper rest := fun heq => hbefore (by rw [heq])
      rcases hnext with ⟨m, hnode, hwalk⟩ | ⟨-, rfl, -⟩
      · by_cases hnil : k = []
        · subst hnil
          -- The walk goes on, which it does from a folder only.
          obtain ⟨d, more, rfl⟩ := List.exists_cons_of_ne_nil (l := rest) (by
            rintro rfl
            exact hmore rfl)
          obtain ⟨rfl, -⟩ := walk_cons_iff.1 hwalk
          exact hnode
        · have hheld := ih hclimbs.2 hwalk hnil hrest hmore
          simpa using hheld
      · exact absurd (List.prefix_nil.mp hrest) hmore

/-! ## Paths -/

/-- A path that does not climb leads to its location, which holds what was found. -/
theorem resolve_held {fs : FileSystem} {path : String} (hclimbs : ¬ Climbs path) {l : Location}
    {n : Node} (h : fs.resolve path = .ok (.held l n)) :
    l = locationOf fs.working path ∧ (names path = [] ∧ n = .folder ∨ fs.node? l = some n) := by
  obtain ⟨hsteps, hnames⟩ := proper_stepsOf hclimbs
  rcases walk_ok hsteps (resolve_walk h) with ⟨m, hplace, hheld⟩ | ⟨hplace, -⟩
  · cases hplace
    rw [hnames] at hheld ⊢
    exact ⟨rfl, hheld⟩
  · cases hplace

theorem resolve_free {fs : FileSystem} {path : String} (hclimbs : ¬ Climbs path) {l : Location}
    {slash : Bool} (h : fs.resolve path = .ok (.free l slash)) :
    l = locationOf fs.working path ∧ fs.node? l = none := by
  obtain ⟨hsteps, hnames⟩ := proper_stepsOf hclimbs
  rcases walk_ok hsteps (resolve_walk h) with ⟨m, hplace, -⟩ | ⟨hplace, hnode⟩
  · cases hplace
  · cases hplace
    rw [hnames] at hnode ⊢
    exact ⟨rfl, hnode⟩

/-- A path that is not empty is not found only where a location on its way holds nothing. -/
theorem resolve_notFound {fs : FileSystem} {path : String} (hclimbs : ¬ Climbs path)
    (hgiven : path ≠ "") (h : fs.resolve path = .error .notFound) :
    ∃ k, k <+: names path ∧ fs.node? (startOf fs.working path ++ k) = none := by
  obtain ⟨hsteps, hnames⟩ := proper_stepsOf hclimbs
  unfold resolve at h
  split at h
  · cases h
  · rw [if_neg (by simpa using hgiven)] at h
    split at h
    · cases h
    · rw [← hnames]
      exact walk_notFound hsteps h

theorem resolve_held_above {fs : FileSystem} {path : String} (hclimbs : ¬ Climbs path)
    {l : Location} {n : Node} (h : fs.resolve path = .ok (.held l n)) {k : Location}
    (hk : k ≠ []) (hinto : k <+: names path) :
    fs.node? (startOf fs.working path ++ k) ≠ none := by
  obtain ⟨hsteps, hnames⟩ := proper_stepsOf hclimbs
  rw [← hnames] at hinto
  exact walk_held_above hsteps (resolve_walk h) hk hinto

/-- Where a path leads depends on the locations on its way alone. -/
theorem resolve_congr {fs fs' : FileSystem} {path : String} (hclimbs : ¬ Climbs path)
    (hworking : fs'.working = fs.working)
    (hsame : ∀ k, k ≠ [] → k <+: names path →
      fs'.node? (startOf fs.working path ++ k) = fs.node? (startOf fs.working path ++ k)) :
    fs'.resolve path = fs.resolve path := by
  obtain ⟨hsteps, hnames⟩ := proper_stepsOf hclimbs
  unfold resolve
  rw [hworking]
  rw [← hnames] at hsame
  have hwalk (slash : Bool) : fs'.walk slash (startOf fs.working path) .folder (stepsOf path) =
      fs.walk slash (startOf fs.working path) .folder (stepsOf path) :=
    walk_congr hsteps hsame
  change (if _ then _ else if _ then _ else if _ then _ else
    fs'.walk _ (startOf fs.working path) .folder (stepsOf path)) = _
  rw [hwalk]
  rfl

/-! ## Effects of operations -/

/-- A path that does not climb lands at its location. -/
theorem landingOf_eq_locationOf (working : Location) {path : String} (hclimbs : ¬ Climbs path) :
    landingOf working path = locationOf working path := by
  obtain ⟨hsteps, hnames⟩ := proper_stepsOf hclimbs
  unfold landingOf
  rw [landing_down _ hsteps, hnames]
  rfl

/-- A file is written at the location of its path, which held no folder. -/
theorem writeFile_ok {fs fs' : FileSystem} {path : String} {bytes : List UInt8}
    (hclimbs : ¬ Climbs path) (h : fs.writeFile path bytes = .ok fs') :
    fs' = fs.put (locationOf fs.working path) (.file bytes) ∧
      locationOf fs.working path ≠ [] ∧ fs.node? (locationOf fs.working path) ≠ some .folder := by
  have hnode := node?_of_writeFile h
  rw [← landingOf_eq_locationOf fs.working hclimbs]
  refine ⟨(writeFile_eq_ok h).1, fun hnil => hnode ?_, hnode⟩
  rw [hnil]
  rfl

/-- What was written to a path is read from it again. -/
theorem readBytes_writeFile {fs fs' : FileSystem} {path : String} {bytes : List UInt8}
    (h : fs.writeFile path bytes = .ok fs') : fs'.readBytes path = .ok bytes := by
  unfold readBytes stat
  rw [resolve_writeFile h]

theorem removeFile_ok {fs fs' : FileSystem} {path : String} (hclimbs : ¬ Climbs path)
    (h : fs.removeFile path = .ok fs') : fs' = fs.removeTree (locationOf fs.working path) := by
  rw [removeFile_eq_ok h, landingOf_eq_locationOf fs.working hclimbs]

end FileSystem

/-! ## Paths below a folder -/

/-- The path leads from where another one leads down along some names. -/
structure LeadsDown (base path : String) (l : Location) : Prop where
  start : isAbsolute path = isAbsolute base
  steps : ∃ more, FileSystem.stepsOf path = FileSystem.stepsOf base ++ more ∧ ".." ∉ more ∧
    FileSystem.proper more = l

namespace LeadsDown

variable {base path : String} {l : Location}

theorem refl (base : String) : LeadsDown base base [] := ⟨rfl, [], by simp, by simp, rfl⟩

/-- What is joined onto a path below a folder leads further down. -/
theorem join (h : LeadsDown base path l) {more : String} (hrelative : isAbsolute more = false)
    (hclimbs : ¬ Climbs more) : LeadsDown base (Path.join path more) (l ++ names more) := by
  obtain ⟨hstart, steps, hsteps, hdown, hproper⟩ := h
  obtain ⟨hmore, hnames⟩ := FileSystem.proper_stepsOf hclimbs
  refine ⟨(isAbsolute_join hrelative).trans hstart, steps ++ FileSystem.stepsOf more, ?_, ?_, ?_⟩
  · rw [stepsOf_join hrelative, hsteps, List.append_assoc]
  · simp [hdown, hmore]
  · unfold FileSystem.proper at hproper hnames ⊢
    rw [List.filter_append, hproper, hnames]

/-- Where a path below a folder leads somewhere, there are folders above it. -/
theorem folder_above (h : LeadsDown base path l) {fs : FileSystem} {place : Place}
    (hresolve : fs.resolve path = .ok place) {k : Location} (hk : k ≠ []) (hinto : k <+: l)
    (hbefore : k ≠ l) : fs.node? (Files.landingOf fs.working base ++ k) = some .folder := by
  obtain ⟨hstart, more, hsteps, hdown, rfl⟩ := h
  have hwalk := FileSystem.resolve_walk hresolve
  have hmore : more ≠ [] := by
    rintro rfl
    exact hk (List.prefix_nil.mp hinto)
  rw [hsteps, FileSystem.walk_append_iff hmore] at hwalk
  have hlanding : landing (FileSystem.startOf fs.working path) (FileSystem.stepsOf base) =
      Files.landingOf fs.working base := by
    unfold Files.landingOf FileSystem.startOf
    rw [hstart]
  rw [hlanding] at hwalk
  exact FileSystem.walk_folder_above hdown hwalk.2 hk hinto hbefore

end LeadsDown

end FormScaffold.Files
