import FormScaffold.Proofs.Path.Names
import Mathlib.Data.List.Basic

/-!
# Segments of the folders above a path

The folder that holds a path is written with the first segments of the path, and so are the
folders above it.  The root has a text of its own.  All paths that lead to a path are those that
lead to the folder that holds it, and the path itself.
-/

namespace FormScaffold.Path

/-! ## Segments that are joined again -/

theorem slash_not_mem_segmentsOf_go {cs current : List Char} (h : '/' ∉ current) :
    ∀ s ∈ segmentsOf.go current cs, '/' ∉ s := by
  induction cs generalizing current with
  | nil => simpa [segmentsOf.go] using h
  | cons c cs ih =>
      intro s hs
      unfold segmentsOf.go at hs
      split at hs
      · rcases List.mem_cons.mp hs with rfl | hs
        · simpa using h
        · exact ih (by simp) s hs
      · rename_i hc
        refine ih ?_ s hs
        simp only [List.mem_cons, not_or]
        exact ⟨fun heq => hc (by simp [← heq]), h⟩

/-- No segment holds a slash. -/
theorem slash_not_mem_of_mem_segmentsOf {cs s : List Char} (h : s ∈ segmentsOf cs) : '/' ∉ s :=
  slash_not_mem_segmentsOf_go (by simp) s h

theorem mem_of_mem_segmentsOf_go {cs current s : List Char} (h : s ∈ segmentsOf.go current cs) :
    s ⊆ current ++ cs := by
  induction cs generalizing current with
  | nil =>
      rw [segmentsOf.go, List.mem_singleton] at h
      simp [h]
  | cons c cs ih =>
      unfold segmentsOf.go at h
      split at h
      · rcases List.mem_cons.mp h with rfl | h
        · intro d hd
          exact List.mem_append_left _ (List.mem_reverse.mp hd)
        · intro d hd
          exact List.mem_append_right _ (List.mem_cons_of_mem c (ih h hd))
      · intro d hd
        have hmem := ih h hd
        rw [List.cons_append] at hmem
        rcases List.mem_cons.mp hmem with rfl | hmem
        · exact List.mem_append_right _ List.mem_cons_self
        · rcases List.mem_append.mp hmem with hmem | hmem
          · exact List.mem_append_left _ hmem
          · exact List.mem_append_right _ (List.mem_cons_of_mem c hmem)

/-- A segment holds characters of the text. -/
theorem mem_of_mem_segmentsOf {cs s : List Char} (h : s ∈ segmentsOf cs) : s ⊆ cs :=
  mem_of_mem_segmentsOf_go h

/-- Segments joined by slashes are cut at the same places again. -/
theorem segmentsOf_intercalate {segments : List (List Char)} (hne : segments ≠ [])
    (hslash : ∀ s ∈ segments, '/' ∉ s) :
    segmentsOf (List.intercalate ['/'] segments) = segments := by
  induction segments with
  | nil => exact absurd rfl hne
  | cons s rest ih =>
      cases rest with
      | nil =>
          rw [List.intercalate_singleton]
          exact segmentsOf_of_not_mem (hslash s List.mem_cons_self)
      | cons s' rest =>
          have hrest := ih (List.cons_ne_nil _ _) fun r hr => hslash r (List.mem_cons_of_mem _ hr)
          rw [List.intercalate_cons_cons, List.append_assoc, List.singleton_append,
            segmentsOf_append_slash, hrest, segmentsOf_of_not_mem (hslash s List.mem_cons_self)]
          rfl

theorem intercalate_segmentsOf_go (current cs : List Char) :
    List.intercalate ['/'] (segmentsOf.go current cs) = current.reverse ++ cs := by
  induction cs generalizing current with
  | nil => simp [segmentsOf.go]
  | cons c cs ih =>
      unfold segmentsOf.go
      split
      · rename_i hc
        rw [List.intercalate_cons_of_ne_nil (segmentsOf_go_ne_nil [] cs), ih, beq_iff_eq.mp hc]
        simp
      · rw [ih]
        simp

/-- A text is its segments joined by slashes. -/
theorem intercalate_segmentsOf (cs : List Char) : List.intercalate ['/'] (segmentsOf cs) = cs :=
  intercalate_segmentsOf_go [] cs

theorem intercalate_append {first second : List (List Char)} (hfirst : first ≠ [])
    (hsecond : second ≠ []) :
    List.intercalate ['/'] (first ++ second) =
      List.intercalate ['/'] first ++ '/' :: List.intercalate ['/'] second := by
  induction first with
  | nil => exact absurd rfl hfirst
  | cons s rest ih =>
      cases rest with
      | nil => simp [List.intercalate_cons_of_ne_nil hsecond]
      | cons s' rest =>
          rw [List.cons_append, List.intercalate_cons_of_ne_nil (by simp), ih (by simp),
            List.intercalate_cons_cons]
          simp

/-! ## Folders above -/

/-- What is dropped at the end stands for no component, and the last segment that is kept stands
for one unless it is the only one. -/
theorem dropSilent_eq_cons {segments before : List (List Char)} {s : List Char}
    (h : dropSilent segments = s :: before) :
    ∃ silent, segments = silent ++ s :: before ∧ (∀ r ∈ silent, r = [] ∨ r = ['.']) ∧
      (before = [] ∨ s ≠ [] ∧ s ≠ ['.']) := by
  induction segments with
  | nil => cases h
  | cons r rest ih =>
      cases rest with
      | nil =>
          cases h
          exact ⟨[], rfl, nofun, Or.inl rfl⟩
      | cons r' rest =>
          unfold dropSilent at h
          split at h
          · rename_i hsilent
            obtain ⟨silent, hrest, hall, hkept⟩ := ih h
            refine ⟨r :: silent, by rw [hrest]; rfl, ?_, hkept⟩
            simp only [Bool.or_eq_true, beq_iff_eq] at hsilent
            exact List.forall_mem_cons.mpr ⟨hsilent, hall⟩
          · rename_i hsounds
            cases h
            simp only [Bool.or_eq_true, beq_iff_eq, not_or] at hsounds
            exact ⟨[], rfl, nofun, Or.inr hsounds⟩

theorem dropSilent_ne_nil {segments : List (List Char)} (h : segments ≠ []) :
    dropSilent segments ≠ [] := by
  induction segments with
  | nil => exact absurd rfl h
  | cons r rest ih =>
      cases rest with
      | nil => exact List.cons_ne_nil _ _
      | cons r' rest =>
          unfold dropSilent
          split
          · exact ih (List.cons_ne_nil _ _)
          · exact List.cons_ne_nil _ _

theorem dropSilent_suffix (segments : List (List Char)) : dropSilent segments <:+ segments := by
  cases h : dropSilent segments with
  | nil => exact List.nil_suffix
  | cons s before =>
      obtain ⟨silent, rfl, -, -⟩ := dropSilent_eq_cons h
      exact List.suffix_append _ _

/-- A path that is cut short within its segments starts where it did. -/
theorem isAbsolute_of_segments {path up : String} {first more : List (List Char)}
    (hup : segmentsOf up.toList = first) (hpath : segmentsOf path.toList = first ++ more)
    (hroot : first ≠ [[]]) : isAbsolute up = isAbsolute path := by
  rw [Bool.eq_iff_iff, isAbsolute_iff, isAbsolute_iff, hup, hpath]
  match first with
  | [] => exact absurd hup (segmentsOf_go_ne_nil [] _)
  | [s] =>
      have hs : s ≠ [] := fun heq => hroot (by rw [heq])
      simp [hs]
  | s :: s' :: rest => simp

theorem filterMap_silent {segments : List (List Char)} (h : ∀ r ∈ segments, r = [] ∨ r = ['.']) :
    segments.filterMap segmentComponent? = [] := by
  rw [List.filterMap_eq_nil_iff]
  intro r hr
  rcases h r hr with rfl | rfl <;> rfl

/-- The folder that holds a path is written with the first segments of the path, or is the root;
at least one segment that is not empty is left out. -/
structure Cut (path up : String) (kept dropped : List (List Char)) : Prop where
  whole : segmentsOf path.toList = kept ++ dropped
  text : kept = [[]] ∧ up = "/" ∨
    kept ≠ [[]] ∧ up = String.ofList (List.intercalate ['/'] kept)
  given : ∃ s ∈ dropped, s ≠ []
  start : kept = [] → isAbsolute path = false

/-- What it takes for a path to have a folder that holds it, and the text of that folder. -/
theorem parent?_eq_some {path up : String} (h : parent? path = some up) :
    (∃ c, (components path).getLast? = some c ∧ c ≠ .root) ∧
      ∃ s before, dropSilent (segmentsOf path.toList).reverse = s :: before ∧
        ((dropSilent before).reverse = [[]] ∧ up = "/" ∨
          (dropSilent before).reverse ≠ [[]] ∧
            up = String.ofList (List.intercalate ['/'] (dropSilent before).reverse)) := by
  unfold parent? at h
  split at h
  next => cases h
  next => cases h
  next c hroot hlast =>
    refine ⟨⟨c, hlast, hroot⟩, ?_⟩
    split at h
    next => cases h
    next s before hdrop =>
      refine ⟨s, before, hdrop, ?_⟩
      split at h
      next hslash =>
        cases h
        exact Or.inl ⟨by rw [hslash]; rfl, rfl⟩
      next hslash =>
        cases h
        exact Or.inr ⟨fun heq => hslash (List.reverse_injective (heq.trans rfl)), rfl⟩

/-- A path whose first segment is empty, with nothing that counts behind it, is empty or the
root. -/
theorem components_of_silent {path : String} {silent : List (List Char)}
    (hsegments : segmentsOf path.toList = [] :: silent)
    (hsilent : ∀ r ∈ silent, r = [] ∨ r = ['.']) :
    components path = [] ∨ components path = [.root] := by
  have hbody := filterMap_silent hsilent
  unfold components
  rw [hsegments]
  cases silent with
  | nil => exact Or.inl rfl
  | cons r rest => exact Or.inr (congrArg (List.cons Component.root) hbody)

theorem exists_cut {path up : String} (h : parent? path = some up) :
    ∃ kept dropped, Cut path up kept dropped := by
  obtain ⟨⟨c, hcomponent, hroot⟩, s, before, hdrop, htext⟩ := parent?_eq_some h
  obtain ⟨silent, hsegments, hsilent, hlast⟩ := dropSilent_eq_cons hdrop
  obtain ⟨dropped, hdropped⟩ := dropSilent_suffix before
  have hreversed : segmentsOf path.toList = before.reverse ++ s :: silent.reverse := by
    have := congrArg List.reverse hsegments
    simpa using this
  have hbefore : before.reverse = (dropSilent before).reverse ++ dropped.reverse := by
    rw [← List.reverse_append, hdropped]
  -- Were the last segment that is kept empty, the path would be empty or the root.
  have hs : s ≠ [] := by
    rintro rfl
    obtain rfl : before = [] := hlast.resolve_right fun hne => hne.1 rfl
    rcases components_of_silent hreversed fun r hr => hsilent r (List.mem_reverse.mp hr) with
      hcomponents | hcomponents <;> rw [hcomponents] at hcomponent
    · cases hcomponent
    · cases hcomponent
      exact hroot rfl
  refine ⟨(dropSilent before).reverse, dropped.reverse ++ s :: silent.reverse, ?_, htext, ?_, ?_⟩
  · rw [hreversed, hbefore, List.append_assoc]
  · exact ⟨s, by simp, hs⟩
  · intro hkept
    by_contra habsolute
    obtain ⟨r, rest, habsolute⟩ := isAbsolute_iff.mp (by simpa using habsolute)
    have hempty : before = [] := by
      by_contra hne
      exact dropSilent_ne_nil hne (List.reverse_eq_nil_iff.mp hkept)
    rw [hreversed, hempty, List.reverse_nil, List.nil_append] at habsolute
    exact hs (List.cons.inj habsolute).1

namespace Cut

variable {path up : String} {kept dropped : List (List Char)}

theorem slash_not_mem (h : Cut path up kept dropped) : ∀ s ∈ kept ++ dropped, '/' ∉ s :=
  fun _ hs => slash_not_mem_of_mem_segmentsOf (h.whole ▸ hs)

theorem dropped_ne_nil (h : Cut path up kept dropped) : dropped ≠ [] := by
  obtain ⟨s, hs, -⟩ := h.given
  exact List.ne_nil_of_mem hs

/-- What is left out is not empty. -/
theorem rest_ne_nil (h : Cut path up kept dropped) : List.intercalate ['/'] dropped ≠ [] := by
  intro hempty
  obtain ⟨s, hs, hgiven⟩ := h.given
  have hsegments := segmentsOf_intercalate h.dropped_ne_nil fun s hs =>
    h.slash_not_mem s (List.mem_append_right kept hs)
  rw [hempty] at hsegments
  rw [← hsegments] at hs
  exact hgiven (List.mem_singleton.mp hs)

/-- The folder's text is followed by something. -/
theorem text_append (h : Cut path up kept dropped) :
    ∃ more, more ≠ [] ∧ path.toList = up.toList ++ more := by
  have hpath : path.toList = List.intercalate ['/'] (kept ++ dropped) := by
    rw [← h.whole, intercalate_segmentsOf]
  rcases h.text with ⟨rfl, rfl⟩ | ⟨-, rfl⟩
  · refine ⟨_, h.rest_ne_nil, ?_⟩
    rw [hpath, intercalate_append (List.cons_ne_nil _ _) h.dropped_ne_nil]
    rfl
  · rw [String.toList_ofList]
    by_cases hkept : kept = []
    · subst hkept
      exact ⟨_, h.rest_ne_nil, hpath⟩
    · exact ⟨'/' :: List.intercalate ['/'] dropped, List.cons_ne_nil _ _,
        hpath.trans (intercalate_append hkept h.dropped_ne_nil)⟩

/-- The folder has the segments that are kept, but for empty ones. -/
theorem segments (h : Cut path up kept dropped) :
    (segmentsOf up.toList).filter (fun s => !s.isEmpty) = kept.filter fun s => !s.isEmpty := by
  rcases h.text with ⟨rfl, rfl⟩ | ⟨-, rfl⟩
  · rfl
  · rw [String.toList_ofList]
    by_cases hkept : kept = []
    · subst hkept
      rfl
    · rw [segmentsOf_intercalate hkept fun s hs => h.slash_not_mem s (List.mem_append_left _ hs)]

theorem isAbsolute_eq (h : Cut path up kept dropped) : isAbsolute up = isAbsolute path := by
  rcases h.text with ⟨rfl, rfl⟩ | ⟨hroot, rfl⟩
  · obtain ⟨s, rest, hdropped⟩ := List.exists_cons_of_ne_nil h.dropped_ne_nil
    have habsolute : isAbsolute path = true :=
      isAbsolute_iff.mpr ⟨s, rest, by rw [h.whole, hdropped]; rfl⟩
    rw [habsolute]
    rfl
  · by_cases hkept : kept = []
    · rw [h.start hkept, hkept]
      rfl
    · refine isAbsolute_of_segments ?_ h.whole hroot
      rw [String.toList_ofList]
      exact segmentsOf_intercalate hkept fun s hs => h.slash_not_mem s (List.mem_append_left _ hs)

end Cut

theorem exists_parent? {path : String} {c : Component}
    (h : (components path).getLast? = some c) (hroot : c ≠ .root) :
    ∃ up, parent? path = some up := by
  have hsegments : dropSilent (segmentsOf path.toList).reverse ≠ [] :=
    dropSilent_ne_nil fun hnil =>
      segmentsOf_go_ne_nil [] path.toList (List.reverse_eq_nil_iff.mp hnil)
  obtain ⟨s, before, hdrop⟩ := List.exists_cons_of_ne_nil hsegments
  unfold parent?
  rw [h, hdrop]
  cases c with
  | root => exact absurd rfl hroot
  | _ =>
      simp only []
      split
      · exact ⟨_, rfl⟩
      · exact ⟨_, rfl⟩

/-- Only the root and the empty path are held by no folder. -/
theorem body_of_no_parent {path : String} (h : parent? path = none) : body path = [] := by
  by_contra hbody
  obtain ⟨before, c, hlast⟩ := (List.eq_nil_or_concat' (body path)).resolve_left hbody
  have hcomponents : (components path).getLast? = some c := by
    rw [List.getLast?_eq_some_iff]
    rcases components_cases path with ⟨-, hparts⟩ | ⟨-, hparts⟩ | ⟨-, hparts⟩ <;>
      rw [hparts, hlast]
    · exact ⟨.root :: before, rfl⟩
    · exact ⟨.current :: before, rfl⟩
    · exact ⟨before, rfl⟩
  obtain ⟨up, hup⟩ := exists_parent? hcomponents fun hroot => root_not_mem_body path (by
    rw [hlast, hroot]
    simp)
  rw [h] at hup
  cases hup

/-- The folder that holds a path starts where the path does, and its segments, but for empty
ones, are the first of the path and not all of them. -/
theorem parent?_segments {path up : String} (h : parent? path = some up) :
    isAbsolute up = isAbsolute path ∧ ∃ more, more ≠ [] ∧
      (segmentsOf path.toList).filter (fun s => !s.isEmpty) =
        (segmentsOf up.toList).filter (fun s => !s.isEmpty) ++ more := by
  obtain ⟨kept, dropped, hcut⟩ := exists_cut h
  refine ⟨hcut.isAbsolute_eq, dropped.filter fun s => !s.isEmpty, ?_, ?_⟩
  · obtain ⟨s, hs, hgiven⟩ := hcut.given
    exact List.ne_nil_of_mem (List.mem_filter.mpr ⟨hs, by simpa using hgiven⟩)
  · rw [hcut.whole, List.filter_append, hcut.segments]

/-- The text of the folder that holds a path is the start of the path's text. -/
theorem parent?_text {path up : String} (h : parent? path = some up) :
    ∃ more, more ≠ [] ∧ path.toList = up.toList ++ more := by
  obtain ⟨kept, dropped, hcut⟩ := exists_cut h
  exact hcut.text_append

theorem length_parent? {path up : String} (h : parent? path = some up) :
    up.length < path.length := by
  obtain ⟨more, hmore, hpath⟩ := parent?_text h
  have hlength := congrArg List.length hpath
  rw [List.length_append, String.length_toList, String.length_toList] at hlength
  have := List.length_pos_of_ne_nil hmore
  omega

/-! ## All paths that lead to a path -/

theorem stepsTo_go {fuel : Nat} {path : String} (h : path.length ≤ fuel) (steps : List String) :
    stepsTo.go fuel path steps = stepsTo path ++ steps := by
  unfold stepsTo
  -- The induction is on the fuel; what is left at the folder above is enough for it.
  induction fuel using Nat.strongRecOn generalizing path steps with
  | _ fuel ih =>
      cases hparent : parent? path with
      | none =>
          have hstop : ∀ n given, stepsTo.go n path given = given := by
            intro n given
            cases n with
            | zero => rfl
            | succ n => simp [stepsTo.go, hparent]
          rw [hstop, hstop, List.nil_append]
      | some up =>
          have hshorter := length_parent? hparent
          obtain ⟨n, hn⟩ := Nat.exists_eq_add_one_of_ne_zero (Nat.ne_zero_of_lt hshorter)
          have hnext : ∀ m given, n ≤ m → stepsTo.go (m + 1) path given =
              stepsTo.go m up (path :: given) := by
            intro m given _
            simp [stepsTo.go, hparent]
          obtain ⟨f, rfl⟩ := Nat.exists_eq_add_of_le h
          rw [hn, Nat.add_right_comm, hnext _ _ (Nat.le_add_right n f), hnext _ _ (Nat.le_refl n),
            ih (n + f) (by omega) (by omega), ih n (by omega) (by omega)]
          simp

theorem stepsTo_of_none {path : String} (h : parent? path = none) : stepsTo path = [] := by
  unfold stepsTo
  cases path.length with
  | zero => rfl
  | succ n => simp [stepsTo.go, h]

/-- The path comes after all that lead to the folder that holds it. -/
theorem stepsTo_of_parent {path up : String} (h : parent? path = some up) :
    stepsTo path = stepsTo up ++ [path] := by
  have hshorter := length_parent? h
  obtain ⟨n, hn⟩ := Nat.exists_eq_add_one_of_ne_zero (Nat.ne_zero_of_lt hshorter)
  have hgo : stepsTo path = stepsTo.go n up [path] := by
    unfold stepsTo
    rw [hn]
    simp [stepsTo.go, h]
  rw [hgo, stepsTo_go (by omega)]

/-- What holds of a path that is held by no folder, and of a path if it holds of the folder that
holds it, holds of every path. -/
theorem parent?_induction {motive : String → Prop} (top : ∀ p, parent? p = none → motive p)
    (below : ∀ p up, parent? p = some up → motive up → motive p) (path : String) :
    motive path := by
  induction hlength : path.length using Nat.strongRecOn generalizing path with
  | _ n ih =>
      subst hlength
      cases hparent : parent? path with
      | none => exact top path hparent
      | some up => exact below path up hparent (ih _ (length_parent? hparent) up rfl)

/-- The paths that lead to a path are not empty and written with the start of its text. -/
theorem text_of_mem_stepsTo {path step : String} (h : step ∈ stepsTo path) :
    step ≠ "" ∧ step.toList <+: path.toList := by
  induction path using parent?_induction with
  | top p hnone =>
      rw [stepsTo_of_none hnone] at h
      cases h
  | below p up hup ih =>
      rw [stepsTo_of_parent hup] at h
      rcases List.mem_append.mp h with h | h
      · obtain ⟨more, -, htext⟩ := parent?_text hup
        obtain ⟨hgiven, hstep⟩ := ih h
        exact ⟨hgiven, hstep.trans ⟨more, htext.symm⟩⟩
      · rw [List.mem_singleton.mp h]
        refine ⟨?_, List.prefix_refl _⟩
        rintro rfl
        cases hup

end FormScaffold.Path
