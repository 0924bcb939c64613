import FormScaffold.Proofs.Archive.Extraction
import FormScaffold.Proofs.Archive.Packing
import FormScaffold.Proofs.Files.Soundness

/-!
# Places and their entries

The name of an entry leads back to the place that it was made for: its steps are the names on the
way there, and it ends with a slash exactly if the place holds a folder.  So different places have
different entries, and all entries can be extracted.  What lies below a folder is listed as a
tree: each folder comes before what it holds, and names in one folder come in their order.
-/

namespace FormScaffold.Archive

open Files Path

/-! ## Places -/

/-- The way from a folder to what lies below it. -/
structure IsPlace (rel : Location) : Prop where
  given : rel ≠ []
  names : ∀ s ∈ rel, IsName s

theorem mem_intercalate {segments : List (List Char)} {c : Char}
    (h : c ∈ List.intercalate ['/'] segments) : c = '/' ∨ ∃ s ∈ segments, c ∈ s := by
  induction segments with
  | nil => cases h
  | cons s rest ih =>
      by_cases hrest : rest = []
      · subst hrest
        rw [List.intercalate_singleton] at h
        exact Or.inr ⟨s, List.mem_cons_self, h⟩
      · rw [List.intercalate_cons_of_ne_nil hrest, List.mem_append, List.mem_append,
          List.mem_singleton] at h
        rcases h with (h | h) | h
        · exact Or.inr ⟨s, List.mem_cons_self, h⟩
        · exact Or.inl h
        · exact (ih h).imp_right fun ⟨r, hr, hc⟩ => ⟨r, List.mem_cons_of_mem s hr, hc⟩

/-- The name of an entry is the name of its place, with a slash if it is for a folder. -/
theorem entryOf_name (rel : Location) (node : Node) :
    (entryOf (rel, node)).name = entryName rel ++ (if node = .folder then "/" else "") := by
  cases node with
  | folder => rfl
  | file bytes =>
      rw [if_neg nofun, String.append_empty]
      rfl

namespace IsPlace

variable {rel : Location}

theorem segmentsOf_entryName (h : IsPlace rel) :
    segmentsOf (entryName rel).toList = rel.map String.toList := by
  unfold entryName
  rw [String.toList_intercalate]
  refine segmentsOf_intercalate (by simpa using h.given) fun s hs => ?_
  obtain ⟨name, hname, rfl⟩ := List.mem_map.mp hs
  exact (h.names name hname).slash

/-- A slash at the end of a name only adds an empty segment. -/
theorem segmentsOf_entry (h : IsPlace rel) (node : Node) :
    ∃ seam, segmentsOf (entryOf (rel, node)).name.toList = rel.map String.toList ++ seam ∧
      (seam = [] ∨ seam = [[]]) := by
  rw [entryOf_name, String.toList_append]
  split
  · refine ⟨[[]], ?_, Or.inr rfl⟩
    rw [← h.segmentsOf_entryName]
    exact segmentsOf_append_slash _ []
  · refine ⟨[], ?_, Or.inl rfl⟩
    rw [List.append_nil, ← h.segmentsOf_entryName]
    exact congrArg segmentsOf (List.append_nil _)

/-- The steps of an entry's name lead along its place. -/
theorem stepsOf_entry (h : IsPlace rel) (node : Node) :
    FileSystem.stepsOf (entryOf (rel, node)).name = rel := by
  obtain ⟨seam, hsegments, hseam⟩ := h.segmentsOf_entry node
  unfold FileSystem.stepsOf
  have hgiven : (rel.map String.toList).filter (fun s => !s.isEmpty) = rel.map String.toList := by
    refine List.filter_eq_self.mpr fun s hs => ?_
    obtain ⟨name, hname, rfl⟩ := List.mem_map.mp hs
    simpa using (h.names name hname).toList_ne_nil
  have hempty : seam.filter (fun s => !s.isEmpty) = [] := by
    rcases hseam with rfl | rfl <;> rfl
  rw [hsegments, List.filter_append, hgiven, hempty, List.append_nil, List.map_map]
  simp [Function.comp_def]

theorem isAbsolute_entry (h : IsPlace rel) (node : Node) :
    isAbsolute (entryOf (rel, node)).name = false := by
  obtain ⟨seam, hsegments, -⟩ := h.segmentsOf_entry node
  by_contra habsolute
  obtain ⟨s, rest, hroot⟩ := isAbsolute_iff.mp (by simpa using habsolute)
  obtain ⟨name, more, hrel⟩ := List.exists_cons_of_ne_nil h.given
  rw [hsegments, hrel] at hroot
  exact (h.names name (hrel ▸ List.mem_cons_self)).toList_ne_nil (List.cons.inj hroot).1

theorem not_climbs_entry (h : IsPlace rel) (node : Node) :
    ¬ Climbs (entryOf (rel, node)).name := by
  obtain ⟨seam, hsegments, hseam⟩ := h.segmentsOf_entry node
  rw [climbs_iff, hsegments, List.mem_append]
  rintro (hdots | hdots)
  · obtain ⟨name, hname, hdots⟩ := List.mem_map.mp hdots
    exact (h.names name hname).dots (String.toList_inj.mp hdots)
  · rcases hseam with rfl | rfl <;> simp at hdots

theorem nul_not_mem_entry (h : IsPlace rel) (node : Node) :
    Char.ofNat 0 ∉ (entryOf (rel, node)).name.toList := by
  have hplace : Char.ofNat 0 ∉ (entryName rel).toList := by
    unfold entryName
    rw [String.toList_intercalate]
    intro hmem
    rcases mem_intercalate hmem with hslash | ⟨s, hs, hnul⟩
    · exact absurd hslash (by decide)
    · obtain ⟨name, hname, rfl⟩ := List.mem_map.mp hs
      exact (h.names name hname).nul hnul
  rw [entryOf_name, String.toList_append, List.mem_append]
  rintro (hmem | hmem)
  · exact hplace hmem
  · split at hmem
    · exact absurd hmem (by decide)
    · cases hmem

/-- The entry for a place can be extracted. -/
theorem isEnclosed_entry (h : IsPlace rel) (node : Node) :
    isEnclosed (entryOf (rel, node)).name = true := by
  refine isEnclosed_iff.mpr ?_
  rintro (habsolute | hnul | ⟨first, hfirst, hup⟩)
  · rw [h.isAbsolute_entry node] at habsolute
    cases habsolute
  · exact h.nul_not_mem_entry node hnul
  · have hdown : first.count .parent = 0 :=
      List.count_eq_zero.mpr fun hmem => h.not_climbs_entry node (hfirst.subset hmem)
    omega

/-- What an entry is extracted to lies at its place. -/
theorem landingOf_entry (h : IsPlace rel) (node : Node) (working : Location) (target : String) :
    landingOf working (join target (entryOf (rel, node)).name) =
      landingOf working target ++ rel := by
  have hrelative := h.isAbsolute_entry node
  unfold landingOf
  rw [startOf_join working hrelative, stepsOf_join hrelative, landing_append,
    h.stepsOf_entry node, landing_names _ h.names]

end IsPlace

/-! ## Trees -/

/-- A location comes before another: it lies above it, or, where the two part, it goes on with
the smaller name. -/
def Earlier (k l : Location) : Prop :=
  (k <+: l ∧ k ≠ l) ∨ ∃ up a b, a < b ∧ up ++ [a] <+: k ∧ up ++ [b] <+: l

theorem locationBefore_of_prefix {k l : Location} (h : k <+: l) (hne : k ≠ l) :
    locationBefore k l = true := by
  obtain ⟨rel, rfl⟩ := h
  cases rel with
  | nil => exact absurd (List.append_nil k).symm hne
  | cons s rest =>
      have hbefore := locationBefore_append k [] (s :: rest)
      rwa [List.append_nil] at hbefore

/-- Places in order, each with all folders on the way to it, of which no file is named like a
folder. -/
structure Tree (places : List (Location × Node)) : Prop where
  sorted : Sorted places
  isPlace : ∀ p ∈ places, IsPlace p.1
  above : ∀ p ∈ places, ∀ k, k ≠ [] → k <+: p.1 → k ≠ p.1 → (k, .folder) ∈ places
  plain : ∀ up last bytes, (up ++ [last], .file bytes) ∈ places →
    last.toList.getLast? ≠ some '\\'

namespace Tree

variable {places : List (Location × Node)}

/-- The name of an entry tells whether it is for a folder. -/
theorem isFolderName_entry (h : Tree places) {rel : Location} {node : Node}
    (hmem : (rel, node) ∈ places) :
    isFolderName (entryOf (rel, node)).name = true ↔ node = .folder := by
  have hplace := h.isPlace _ hmem
  obtain ⟨up, last, rfl⟩ := (List.eq_nil_or_concat' rel).resolve_left hplace.given
  have hname := hplace.names last (by simp)
  cases node with
  | folder =>
      refine iff_of_true ?_ rfl
      rw [entryOf_name, if_pos rfl]
      unfold isFolderName
      simp
  | file bytes =>
      refine iff_of_false ?_ nofun
      rw [entryOf_name, if_neg nofun, String.append_empty,
        isFolderName_entryName up hname.toList_ne_nil]
      unfold isFolderName
      simp only [Bool.or_eq_true, beq_iff_eq, not_or]
      refine ⟨fun hslash => hname.slash ?_, h.plain up last bytes hmem⟩
      exact List.mem_of_getLast? hslash

/-- The path for a place ends with a slash exactly if the place holds a folder. -/
theorem getLast?_target (h : Tree places) {rel : Location} {node : Node}
    (hmem : (rel, node) ∈ places) (target : String) :
    ((join target (entryOf (rel, node)).name).toList.getLast? == some '/') =
      decide (node = .folder) := by
  have hplace := h.isPlace _ hmem
  obtain ⟨up, last, rfl⟩ := (List.eq_nil_or_concat' rel).resolve_left hplace.given
  have hname := hplace.names last (by simp)
  have hlast := getLast?_entryName up hname.toList_ne_nil
  rw [Bool.eq_iff_iff, beq_iff_eq, decide_eq_true_iff]
  cases node with
  | folder =>
      refine iff_of_true ?_ rfl
      rw [entryOf_name, if_pos rfl, getLast?_join target (by simp)]
      simp
  | file bytes =>
      refine iff_of_false (fun hslash => hname.slash ?_) nofun
      rw [entryOf_name, if_neg nofun, String.append_empty] at hslash
      rw [getLast?_join target, hlast] at hslash
      · exact List.mem_of_getLast? hslash
      · intro hnil
        rw [hnil] at hlast
        exact hname.toList_ne_nil (List.getLast?_eq_none_iff.mp hlast.symm)

/-- No place is listed twice. -/
theorem nodup (h : Tree places) : (places.map Prod.fst).Nodup := by
  refine List.Pairwise.map _ (fun p q hpq heq => ?_) h.sorted
  rw [heq, locationBefore_irrefl] at hpq
  cases hpq

/-- No name is listed twice. -/
theorem nodup_entries (h : Tree places) : ((places.map entryOf).map Entry.name).Nodup := by
  -- The steps of the names are the places.
  refine List.Nodup.of_map FileSystem.stepsOf ?_
  have hsteps : ((places.map entryOf).map Entry.name).map FileSystem.stepsOf =
      places.map Prod.fst := by
    rw [List.map_map, List.map_map]
    exact List.map_congr_left fun p hp => (h.isPlace p hp).stepsOf_entry p.2
  rw [hsteps]
  exact h.nodup

/-- A listed place comes after the folders on the way to it. -/
theorem above_of_split (h : Tree places) {done rest : List (Location × Node)} {rel : Location}
    {node : Node} (hplaces : places = done ++ (rel, node) :: rest) {k : Location} (hk : k ≠ [])
    (hpre : k <+: rel) (hne : k ≠ rel) : done.lookup k = some .folder := by
  have hsorted := h.sorted
  rw [hplaces] at hsorted
  obtain ⟨hdone, hlast, -⟩ := List.pairwise_append.mp hsorted
  rw [← FileSystem.mem_iff_lookup hdone]
  have hmem := h.above (rel, node) (by rw [hplaces]; simp) k hk hpre hne
  rw [hplaces] at hmem
  rcases List.mem_append.mp hmem with hmem | hmem
  · exact hmem
  · -- What comes after the place is not before it.
    have hbefore := locationBefore_of_prefix hpre hne
    rcases List.mem_cons.mp hmem with heq | hmem
    · exact absurd (congrArg Prod.fst heq) hne
    · have hafter := (List.pairwise_cons.mp hlast).1 _ hmem
      have hself := locationBefore_trans hbefore hafter
      rw [locationBefore_irrefl] at hself
      cases hself

theorem lookup_of_split (h : Tree places) {done rest : List (Location × Node)} {rel : Location}
    {node : Node} (hplaces : places = done ++ (rel, node) :: rest) : done.lookup rel = none := by
  have hsorted := h.sorted
  rw [hplaces] at hsorted
  obtain ⟨hdone, -, hbetween⟩ := List.pairwise_append.mp hsorted
  by_contra hfound
  obtain ⟨m, hm⟩ := Option.ne_none_iff_exists'.mp hfound
  have hmem := (FileSystem.mem_iff_lookup hdone rel m).mpr hm
  have hself := hbetween _ hmem (rel, node) List.mem_cons_self
  rw [locationBefore_irrefl] at hself
  cases hself

end Tree

end FormScaffold.Archive
