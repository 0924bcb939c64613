import FormScaffold.Proofs.Files.Contents
import FormScaffold.Proofs.Path.Parents

/-!
# Changes kept to one folder

Some actions change a file system only at one location and below it, and make folders on the way
to it where nothing was.  Whether such an action succeeds or fails half-way, all else is as it
was.  The way to a path is what its first steps lead to; without `..` it lies above the path.
-/

namespace FormScaffold.Files

open Path

/-! ## The way to a path -/

/-- The first steps of a path lead to the location. -/
def Passes (working : Location) (path : String) (l : Location) : Prop :=
  ∃ way, way <+: FileSystem.stepsOf path ∧ l = landing (FileSystem.startOf working path) way

/-- The steps of one path are the first ones of another that starts at the same location. -/
def LeadsInto (step path : String) : Prop :=
  isAbsolute step = isAbsolute path ∧ FileSystem.stepsOf step <+: FileSystem.stepsOf path

theorem LeadsInto.passes (working : Location) {step path : String} (h : LeadsInto step path) :
    Passes working path (landingOf working step) := by
  refine ⟨FileSystem.stepsOf step, h.2, ?_⟩
  unfold landingOf FileSystem.startOf
  rw [h.1]

theorem LeadsInto.trans {step path longer : String} (h : LeadsInto step path)
    (h' : LeadsInto path longer) : LeadsInto step longer :=
  ⟨h.1.trans h'.1, h.2.trans h'.2⟩

/-- The folder that holds a path leads into it. -/
theorem leadsInto_parent {path up : String} (h : parent? path = some up) : LeadsInto up path := by
  obtain ⟨habsolute, more, -, hsegments⟩ := parent?_segments h
  refine ⟨habsolute, more.map String.ofList, ?_⟩
  unfold FileSystem.stepsOf
  rw [hsegments, List.map_append]

/-- All paths that lead to a path lead into it. -/
theorem leadsInto_of_mem_stepsTo {path step : String} (h : step ∈ stepsTo path) :
    LeadsInto step path := by
  induction path using parent?_induction with
  | top p hnone =>
      rw [stepsTo_of_none hnone] at h
      cases h
  | below p up hup ih =>
      rw [stepsTo_of_parent hup] at h
      rcases List.mem_append.mp h with h | h
      · exact (ih h).trans (leadsInto_parent hup)
      · rw [List.mem_singleton.mp h]
        exact ⟨rfl, List.prefix_refl _⟩

/-- All paths that lead to the folder that holds a path lead into the path. -/
theorem leadsInto_of_mem_stepsTo_parent {path up step : String} (h : parent? path = some up)
    (hstep : step ∈ stepsTo up) : LeadsInto step path :=
  (leadsInto_of_mem_stepsTo hstep).trans (leadsInto_parent h)

/-- The way to a path that does not climb lies above it. -/
theorem Passes.above {working l : Location} {path : String} (h : Passes working path l)
    (hclimbs : ¬ Climbs path) : l <+: landingOf working path := by
  obtain ⟨way, hway, rfl⟩ := h
  obtain ⟨hsteps, -⟩ := FileSystem.proper_stepsOf hclimbs
  unfold landingOf
  rw [landing_down _ hsteps, landing_down _ fun hmem => hsteps (hway.subset hmem)]
  exact (List.prefix_append_right_inj _).mpr (hway.filter _)

/-- On the way to what is joined onto a folder one is on the way to the folder, or some of the
joined names below it. -/
theorem Passes.join_cases {working l : Location} {base path : String}
    (h : Passes working (join base path) l) (hrelative : isAbsolute path = false)
    (hclimbs : ¬ Climbs path) :
    Passes working base l ∨ ∃ k, k <+: names path ∧ l = landingOf working base ++ k := by
  obtain ⟨way, hway, rfl⟩ := h
  obtain ⟨hsteps, hnames⟩ := FileSystem.proper_stepsOf hclimbs
  rw [stepsOf_join hrelative] at hway
  rw [startOf_join working hrelative]
  rcases List.prefix_or_prefix_of_prefix hway (List.prefix_append _ _) with hbefore | ⟨more, rfl⟩
  · exact Or.inl ⟨way, hbefore, rfl⟩
  · have hmore : more <+: FileSystem.stepsOf path := (List.prefix_append_right_inj _).mp hway
    rw [landing_append, landing_down _ fun hmem => hsteps (hmore.subset hmem), ← hnames]
    exact Or.inr ⟨_, hmore.filter _, rfl⟩

/-- The path is missed only where nothing is, and the way to it stays out of what it leads to.
With `..` a path may be missed because of a folder on its way that lies elsewhere. -/
structure Straight (fs : FileSystem) (path : String) : Prop where
  seen : fs.isPresent path = .ok false → fs.node? (landingOf fs.working path) = none
  direct : ∀ l, Passes fs.working path l → landingOf fs.working path <+: l →
    l = landingOf fs.working path

theorem FileSystem.WellFormed.straight {fs : FileSystem} (hwell : fs.WellFormed) {path : String}
    (hclimbs : ¬ Climbs path) (hgiven : path ≠ "") : Straight fs path where
  seen := hwell.node?_of_absent hclimbs hgiven
  direct := fun _ hpasses hbelow =>
    ((hpasses.above hclimbs).eq_of_length_le hbelow.length_le)

/-! ## File systems that differ in one folder -/

/-- The second file system is the first but for what lies at a location and below it, and for
folders that were made where nothing was, at locations that are allowed for. -/
structure Within (root : Location) (ways : Location → Prop) (fs fs' : FileSystem) : Prop where
  working : fs'.working = fs.working
  outside : ∀ l, ¬ root <+: l →
    fs'.node? l = fs.node? l ∨ ways l ∧ fs.node? l = none ∧ fs'.node? l = some .folder

namespace Within

variable {root : Location} {ways : Location → Prop} {fs fs' fs'' : FileSystem}

theorem refl (fs : FileSystem) : Within root ways fs fs := ⟨rfl, fun _ _ => Or.inl rfl⟩

theorem trans (h : Within root ways fs fs') (h' : Within root ways fs' fs'') :
    Within root ways fs fs'' := by
  refine ⟨h'.working.trans h.working, fun l hl => ?_⟩
  rcases h.outside l hl with hsame | ⟨hway, hnone, hfolder⟩
  · rcases h'.outside l hl with hsame' | ⟨hway, hnone', hfolder'⟩
    · exact Or.inl (hsame'.trans hsame)
    · exact Or.inr ⟨hway, hsame ▸ hnone', hfolder'⟩
  · rcases h'.outside l hl with hsame' | ⟨-, hnone', -⟩
    · exact Or.inr ⟨hway, hnone, hsame'.trans hfolder⟩
    · rw [hfolder] at hnone'
      cases hnone'

theorem of_put {l : Location} (hl : root <+: l) (n : Node) : Within root ways fs (fs.put l n) := by
  refine ⟨rfl, fun k hk => Or.inl ?_⟩
  have hne : k ≠ l := by
    rintro rfl
    exact hk hl
  exact FileSystem.node?_put_of_ne fs hne n

theorem of_removeTree : Within root ways fs (fs.removeTree root) :=
  ⟨rfl, fun _ hk => Or.inl (FileSystem.node?_removeTree_of_not_prefix fs hk)⟩

theorem of_createFolder {path : String} (h : fs.createFolder path = .ok fs')
    (hplace : ways (landingOf fs.working path) ∨ root <+: landingOf fs.working path) :
    Within root ways fs fs' := by
  obtain ⟨rfl, hnone⟩ := FileSystem.createFolder_eq_ok h
  rcases hplace with hway | hinside
  · refine ⟨rfl, fun k _ => ?_⟩
    by_cases hk : k = landingOf fs.working path
    · subst hk
      have hne : landingOf fs.working path ≠ [] := by
        intro hnil
        rw [hnil] at hnone
        cases hnone
      exact Or.inr ⟨hway, hnone, FileSystem.node?_put_self fs hne .folder⟩
    · exact Or.inl (FileSystem.node?_put_of_ne fs hk .folder)
  · exact of_put hinside .folder

theorem of_createSteps (fs : FileSystem) {steps : List String}
    (hplaces : ∀ step ∈ steps,
      ways (landingOf fs.working step) ∨ root <+: landingOf fs.working step) :
    Within root ways fs (fs.createSteps steps).1 := by
  induction steps generalizing fs with
  | nil => exact .refl fs
  | cons step rest ih =>
      have hrest := fun s hs => hplaces s (List.mem_cons_of_mem step hs)
      unfold FileSystem.createSteps
      split
      · exact ih fs hrest
      · exact .refl fs
      · split
        · rename_i fs' hcreate
          have hfirst := of_createFolder hcreate (hplaces step List.mem_cons_self)
          rw [← hfirst.working] at hrest
          exact hfirst.trans (ih fs' hrest)
        · exact .refl fs

/-- Making a folder makes folders at the steps to it only. -/
theorem of_createFolders (fs : FileSystem) {path : String}
    (hplaces : ∀ step ∈ stepsTo path,
      ways (landingOf fs.working step) ∨ root <+: landingOf fs.working step) :
    Within root ways fs (fs.createFolders path).1 := by
  unfold FileSystem.createFolders
  split
  · exact .refl fs
  · split
    · exact .refl fs
    · exact of_createSteps fs hplaces

end Within

/-! ## What actions leave -/

namespace Action

variable {ε α β : Type}

/-- What the action leaves is related to what it found, whatever it returns. -/
def Leaves (R : FileSystem → FileSystem → Prop) (a : Action ε α) : Prop := ∀ fs, R fs (a fs).2

section Leaves

variable {R : FileSystem → FileSystem → Prop}

theorem leaves_pure (hrefl : ∀ fs, R fs fs) (x : α) : Leaves R (pure x : Action ε α) := hrefl

theorem leaves_inspect (hrefl : ∀ fs, R fs fs) (f : FileSystem → α) :
    Leaves R (inspect f : Action ε α) := hrefl

theorem leaves_ofExcept (hrefl : ∀ fs, R fs fs) (r : Except ε α) : Leaves R (ofExcept r) := hrefl

/-- One action after another leaves what both of them may leave. -/
theorem Leaves.bind (htrans : ∀ {fs fs' fs''}, R fs fs' → R fs' fs'' → R fs fs'')
    {a : Action ε α} {f : α → Action ε β} (ha : Leaves R a) (hf : ∀ x, Leaves R (f x)) :
    Leaves R (a >>= f) := by
  intro fs
  have hfirst := ha fs
  change R fs (match a fs with
    | (r, fs') => ExceptT.bindCont f r fs').2
  rcases hresult : a fs with ⟨e | x, fs'⟩
  · rw [hresult] at hfirst
    exact hfirst
  · rw [hresult] at hfirst
    exact htrans hfirst (hf x fs')

theorem leaves_query (hrefl : ∀ fs, R fs fs) (reword : FileError → ε)
    (f : FileSystem → Except FileError α) : Leaves R (query reword f) := by
  intro fs
  unfold query
  split <;> exact hrefl fs

theorem leaves_change (hrefl : ∀ fs, R fs fs) (reword : FileError → ε)
    {f : FileSystem → Except FileError FileSystem} (h : ∀ fs fs', f fs = .ok fs' → R fs fs') :
    Leaves R (change reword f) := by
  intro fs
  unfold change
  split
  · rename_i fs' hresult
    exact h fs fs' hresult
  · exact hrefl fs

theorem leaves_attempt (reword : FileError → ε)
    {f : FileSystem → FileSystem × Except FileError Unit} (h : ∀ fs, R fs (f fs).1) :
    Leaves R (attempt reword f) := by
  intro fs
  have hleft := h fs
  unfold attempt
  split <;> rename_i hresult <;> rw [hresult] at hleft <;> exact hleft

end Leaves

end Action

/-! ## Actions that change one folder -/

namespace Action

/-- From the working folder on, the action changes one folder only, whatever it returns. -/
def Keeps {ε α : Type} (working root : Location) (ways : Location → Prop) (a : Action ε α) : Prop :=
  ∀ fs, fs.working = working → Within root ways fs (a fs).2

variable {ε α β : Type} {working root : Location} {ways : Location → Prop}

theorem keeps_iff_leaves {a : Action ε α} : Keeps working root ways a ↔
    Leaves (fun fs fs' => fs.working = working → Within root ways fs fs') a := Iff.rfl

theorem keeps_pure (x : α) : Keeps working root ways (pure x : Action ε α) :=
  keeps_iff_leaves.mpr (leaves_pure (fun fs _ => .refl fs) x)

theorem keeps_ofExcept (r : Except ε α) : Keeps working root ways (ofExcept r) :=
  keeps_iff_leaves.mpr (leaves_ofExcept (fun fs _ => .refl fs) r)

theorem Keeps.bind {a : Action ε α} {f : α → Action ε β} (ha : Keeps working root ways a)
    (hf : ∀ x, Keeps working root ways (f x)) : Keeps working root ways (a >>= f) := by
  refine keeps_iff_leaves.mpr (Leaves.bind (fun h h' hworking => ?_) ha hf)
  have hfirst := h hworking
  exact hfirst.trans (h' (hfirst.working.trans hworking))

theorem keeps_query (reword : FileError → ε) (f : FileSystem → Except FileError α) :
    Keeps working root ways (query reword f) :=
  keeps_iff_leaves.mpr (leaves_query (fun fs _ => .refl fs) reword f)

theorem keeps_change (reword : FileError → ε) {f : FileSystem → Except FileError FileSystem}
    (h : ∀ fs fs', fs.working = working → f fs = .ok fs' → Within root ways fs fs') :
    Keeps working root ways (change reword f) :=
  keeps_iff_leaves.mpr (leaves_change (fun fs _ => .refl fs) reword
    fun fs fs' hresult hworking => h fs fs' hworking hresult)

theorem keeps_attempt (reword : FileError → ε)
    {f : FileSystem → FileSystem × Except FileError Unit}
    (h : ∀ fs, fs.working = working → Within root ways fs (f fs).1) :
    Keeps working root ways (attempt reword f) :=
  keeps_iff_leaves.mpr (leaves_attempt reword h)

end Action

end FormScaffold.Files
