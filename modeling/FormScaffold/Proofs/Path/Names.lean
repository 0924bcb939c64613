import FormScaffold.Path.Basic
import FormScaffold.Proofs.Text.Replacing

/-!
# Names along a path

A path without `..` leads along its names: its components are the names, after the root or a
leading dot, and joining a relative path onto a folder appends its names to those of the
folder.

Putting a name in for a placeholder changes segments of a path only in which something other than
a dot stands before and after, so no segment becomes two dots; and it puts no slash before the path.
-/

namespace FormScaffold.Path

open Text

/-- The name that a segment stands for, if it is neither empty nor one of the dots. -/
def segmentName? (segment : List Char) : Option String :=
  match segmentComponent? segment with
  | some (.name text) => some text
  | _ => none

theorem segmentName?_of_ne {s : List Char} (hempty : s ≠ []) (hdot : s ≠ ['.'])
    (hdots : s ≠ ['.', '.']) : segmentName? s = some (String.ofList s) := by
  have hsilent : ¬ (s == [] || s == ['.']) = true := by
    simp only [Bool.or_eq_true, beq_iff_eq, not_or]
    exact ⟨hempty, hdot⟩
  have hclimbing : ¬ (s == ['.', '.']) = true := by simpa using hdots
  unfold segmentName? segmentComponent?
  rw [if_neg hsilent, if_neg hclimbing]

/-- The names of a path, in order. -/
def names (path : String) : List String := (segmentsOf path.toList).filterMap segmentName?

/-- The path has a component that leads back up. -/
def Climbs (path : String) : Prop := .parent ∈ components path

instance (path : String) : Decidable (Climbs path) :=
  inferInstanceAs (Decidable (.parent ∈ components path))

/-! ## Segments -/

theorem segmentsOf_go_append_slash (current before after : List Char) :
    segmentsOf.go current (before ++ '/' :: after) =
      segmentsOf.go current before ++ segmentsOf after := by
  induction before generalizing current with
  | nil => simp [segmentsOf.go, segmentsOf]
  | cons c cs ih =>
      rw [List.cons_append]
      unfold segmentsOf.go
      by_cases hc : (c == '/') = true
      · rw [if_pos hc, if_pos hc, ih, List.cons_append]
      · rw [if_neg hc, if_neg hc, ih]

/-- A slash separates the segments on its two sides. -/
theorem segmentsOf_append_slash (before after : List Char) :
    segmentsOf (before ++ '/' :: after) = segmentsOf before ++ segmentsOf after :=
  segmentsOf_go_append_slash [] before after

theorem segmentsOf_go_ne_nil (current cs : List Char) : segmentsOf.go current cs ≠ [] := by
  induction cs generalizing current with
  | nil => simp [segmentsOf.go]
  | cons c cs ih =>
      unfold segmentsOf.go
      split
      · simp
      · exact ih _

theorem segmentsOf_go_of_not_mem {cs : List Char} (h : '/' ∉ cs) (current : List Char) :
    segmentsOf.go current cs = [current.reverse ++ cs] := by
  induction cs generalizing current with
  | nil => simp [segmentsOf.go]
  | cons c cs ih =>
      simp only [List.mem_cons, not_or] at h
      have hc : (c == '/') = false := by simpa using fun heq => h.1 heq.symm
      unfold segmentsOf.go
      simp [hc, ih h.2]

/-- A text without slashes is one segment. -/
theorem segmentsOf_of_not_mem {cs : List Char} (h : '/' ∉ cs) : segmentsOf cs = [cs] :=
  segmentsOf_go_of_not_mem h []

/-- The first segment goes on with what was read of it before. -/
theorem segmentsOf_go_head (current cs : List Char) :
    ∃ s rest, segmentsOf.go current cs = (current.reverse ++ s) :: rest := by
  induction cs generalizing current with
  | nil => exact ⟨[], [], by simp [segmentsOf.go]⟩
  | cons c cs ih =>
      unfold segmentsOf.go
      split
      · exact ⟨[], _, by rw [List.append_nil]⟩
      · obtain ⟨s, rest, h⟩ := ih (c :: current)
        exact ⟨c :: s, rest, by rw [h]; simp⟩

theorem segmentsOf_slash_cons (cs : List Char) : segmentsOf ('/' :: cs) = [] :: segmentsOf cs :=
  segmentsOf_append_slash [] cs

theorem segmentsOf_cons {c : Char} (hc : c ≠ '/') (cs : List Char) :
    ∃ s rest, segmentsOf (c :: cs) = (c :: s) :: rest := by
  have hslash : ¬ (c == '/') = true := by simpa using hc
  unfold segmentsOf segmentsOf.go
  rw [if_neg hslash]
  exact segmentsOf_go_head [c] cs

/-- A path starts at the root exactly if its first segment is empty and not its only one. -/
theorem isAbsolute_iff {path : String} :
    isAbsolute path = true ↔ ∃ s rest, segmentsOf path.toList = [] :: s :: rest := by
  unfold isAbsolute
  cases path.toList with
  | nil => simp [segmentsOf, segmentsOf.go]
  | cons c cs =>
      by_cases hc : c = '/'
      · subst hc
        obtain ⟨s, rest, hsegments⟩ := List.exists_cons_of_ne_nil (segmentsOf_go_ne_nil [] cs)
        refine iff_of_true (by simp) ⟨s, rest, ?_⟩
        rw [segmentsOf_slash_cons]
        exact congrArg (List.cons []) hsegments
      · obtain ⟨s, rest, hsegments⟩ := segmentsOf_cons hc cs
        rw [hsegments]
        simp [hc]

/-! ## Components -/

/-- What a path's components are after the root or a leading dot. -/
def body (path : String) : List Component := (segmentsOf path.toList).filterMap segmentComponent?

/-- What the components of a path start with is told by the root and by its first segment. -/
theorem components_eq (path : String) : components path =
    (if isAbsolute path = true then [.root]
      else if (segmentsOf path.toList).head? = some ['.'] then [.current]
      else []) ++ body path := by
  unfold components body
  simp only []
  -- The segments show a root, a leading dot, or neither.
  split
  · rename_i s rest hsegments
    rw [if_pos (isAbsolute_iff.mpr ⟨s, rest, hsegments⟩)]
    rfl
  · rename_i rest hsegments
    have hrelative : ¬ isAbsolute path = true := by
      rw [isAbsolute_iff, hsegments]
      rintro ⟨s, more, hroot⟩
      cases hroot
    rw [if_neg hrelative, hsegments, List.head?_cons, if_pos rfl]
    rfl
  · rename_i hroot hdot
    have hrelative : ¬ isAbsolute path = true := by
      rw [isAbsolute_iff]
      rintro ⟨s, more, hsegments⟩
      exact hroot s more hsegments
    have hhead : (segmentsOf path.toList).head? ≠ some ['.'] := by
      rw [ne_eq, List.head?_eq_some_iff]
      rintro ⟨more, hsegments⟩
      exact hdot more hsegments
    rw [if_neg hrelative, if_neg hhead, List.nil_append]

theorem components_cases (path : String) :
    (isAbsolute path = true ∧ components path = .root :: body path) ∨
    (isAbsolute path = false ∧ components path = .current :: body path) ∨
    (isAbsolute path = false ∧ components path = body path) := by
  rw [components_eq]
  by_cases habsolute : isAbsolute path = true
  · rw [if_pos habsolute]
    exact Or.inl ⟨habsolute, rfl⟩
  · rw [if_neg habsolute]
    refine Or.inr ?_
    split
    · exact Or.inl ⟨Bool.eq_false_iff.mpr habsolute, rfl⟩
    · exact Or.inr ⟨Bool.eq_false_iff.mpr habsolute, rfl⟩

/-- A path climbs exactly if two dots are one of its segments. -/
theorem climbs_iff {path : String} : Climbs path ↔ ['.', '.'] ∈ segmentsOf path.toList := by
  have hbody : Climbs path ↔ .parent ∈ body path := by
    unfold Climbs
    rcases components_cases path with ⟨-, h⟩ | ⟨-, h⟩ | ⟨-, h⟩ <;> rw [h] <;> simp
  rw [hbody, body, List.mem_filterMap]
  constructor
  · rintro ⟨s, hs, hparent⟩
    unfold segmentComponent? at hparent
    split at hparent
    · cases hparent
    · split at hparent
      · rename_i hdots
        rw [beq_iff_eq.mp hdots] at hs
        exact hs
      · cases hparent
  · intro hs
    exact ⟨['.', '.'], hs, by decide⟩

/-- A confined path is relative and does not climb. -/
theorem of_isConfined {path : String} (h : isConfined path = true) :
    isAbsolute path = false ∧ ¬ Climbs path := by
  unfold isConfined at h
  rw [List.all_eq_true] at h
  constructor
  · rcases components_cases path with ⟨-, hroot⟩ | ⟨habs, -⟩ | ⟨habs, -⟩
    · have := h .root (by rw [hroot]; exact List.mem_cons_self)
      cases this
    · exact habs
    · exact habs
  · intro hclimbs
    have := h .parent hclimbs
    cases this

/-- The root stands at the start of a path only. -/
theorem root_not_mem_body (path : String) : .root ∉ body path := by
  unfold body
  rw [List.mem_filterMap]
  rintro ⟨s, -, hroot⟩
  unfold segmentComponent? at hroot
  split at hroot
  · cases hroot
  · split at hroot <;> cases hroot

/-- The root is among the components of an absolute path only. -/
theorem root_mem_components_iff {path : String} :
    .root ∈ components path ↔ isAbsolute path = true := by
  have hbody := root_not_mem_body path
  rcases components_cases path with ⟨habsolute, h⟩ | ⟨hrelative, h⟩ | ⟨hrelative, h⟩ <;> rw [h]
  · simp [habsolute]
  · simp [hrelative, hbody]
  · simp [hrelative, hbody]

/-- Exactly the relative paths that do not climb are confined. -/
theorem isConfined_iff {path : String} :
    isConfined path = true ↔ isAbsolute path = false ∧ ¬ Climbs path := by
  refine ⟨of_isConfined, fun ⟨hrelative, hclimbs⟩ => ?_⟩
  unfold isConfined
  rw [List.all_eq_true]
  intro c hc
  cases c with
  | current => rfl
  | name text => rfl
  | parent => exact absurd hc hclimbs
  | root =>
      rw [root_mem_components_iff, hrelative] at hc
      cases hc

/-- Without `..` the components after the root or a leading dot are the names. -/
theorem body_eq_names {path : String} (h : ¬ Climbs path) : body path = (names path).map .name := by
  rw [climbs_iff] at h
  unfold body names
  generalize segmentsOf path.toList = segments at h
  induction segments with
  | nil => rfl
  | cons s rest ih =>
      simp only [List.mem_cons, not_or] at h
      have hrest := ih h.2
      have hdots : (s == ['.', '.']) = false := by simpa using fun heq => h.1 heq.symm
      rw [List.filterMap_cons, List.filterMap_cons]
      by_cases hsilent : (s == [] || s == ['.']) = true
      · have hnone : segmentComponent? s = none := by simp only [segmentComponent?, if_pos hsilent]
        simp only [segmentName?, hnone]
        exact hrest
      · have hname : segmentComponent? s = some (.name (String.ofList s)) := by
          unfold segmentComponent?
          rw [if_neg hsilent, hdots]
          rfl
        simp only [segmentName?, hname, List.map_cons]
        rw [hrest]

/-- A text without slashes that is not one of the dots is one name. -/
theorem names_of_plain {path : String} (hslash : '/' ∉ path.toList) (hempty : path.toList ≠ [])
    (hdot : path.toList ≠ ['.']) (hdots : path.toList ≠ ['.', '.']) :
    names path = [path] ∧ isAbsolute path = false ∧ ¬ Climbs path := by
  have hsegments := segmentsOf_of_not_mem hslash
  refine ⟨?_, ?_, ?_⟩
  · rw [names, hsegments, List.filterMap_cons, segmentName?_of_ne hempty hdot hdots]
    simp
  · unfold isAbsolute
    obtain ⟨c, cs, hchars⟩ := List.exists_cons_of_ne_nil hempty
    rw [hchars] at hslash ⊢
    simp only [List.mem_cons, not_or] at hslash
    simpa using fun h => hslash.1 h.symm
  · rw [climbs_iff, hsegments, List.mem_singleton]
    exact fun h => hdots h.symm

theorem names_of_long {path : String} (hslash : '/' ∉ path.toList)
    (hlength : 2 < path.toList.length) :
    names path = [path] ∧ isAbsolute path = false ∧ ¬ Climbs path := by
  refine names_of_plain hslash ?_ ?_ ?_ <;> intro h <;> simp [h] at hlength

/-! ## Joining -/

/-- Joining a relative path puts a slash between the texts unless one is there or the base is
empty; the segments are those of both, less the empty one at the seam. -/
theorem segmentsOf_join (base : String) {path : String} (h : isAbsolute path = false) :
    ∃ before seam, segmentsOf (join base path).toList = before ++ segmentsOf path.toList ∧
      segmentsOf base.toList = before ++ seam ∧ (seam = [] ∨ seam = [[]]) := by
  have hrelative : ¬ isAbsolute path = true := by simp [h]
  unfold join
  rw [if_neg hrelative]
  split
  · rename_i hend
    simp only [Bool.or_eq_true, beq_iff_eq] at hend
    rw [String.toList_append]
    rcases hend with hslash | hempty
    · obtain ⟨before, hbefore⟩ := List.getLast?_eq_some_iff.mp hslash
      refine ⟨segmentsOf before, [[]], ?_, ?_, Or.inr rfl⟩
      · rw [hbefore, List.append_assoc]
        exact segmentsOf_append_slash before path.toList
      · rw [hbefore]
        exact segmentsOf_append_slash before []
    · subst hempty
      exact ⟨[], [[]], rfl, rfl, Or.inr rfl⟩
  · refine ⟨segmentsOf base.toList, [], ?_, (List.append_nil _).symm, Or.inl rfl⟩
    rw [String.toList_append, String.toList_append, List.append_assoc]
    exact segmentsOf_append_slash base.toList path.toList

/-- The names of a joined path are those of the folder and those of the path. -/
theorem names_join {base path : String} (h : isAbsolute path = false) :
    names (join base path) = names base ++ names path := by
  obtain ⟨before, seam, hjoin, hbase, hseam⟩ := segmentsOf_join base h
  unfold names
  rw [hjoin, hbase, List.filterMap_append, List.filterMap_append]
  rcases hseam with rfl | rfl
  · simp
  · simp [segmentName?, segmentComponent?]

/-- Joining adds what the path has after a leading dot. -/
theorem body_join {base path : String} (h : isAbsolute path = false) :
    body (join base path) = body base ++ body path := by
  obtain ⟨before, seam, hjoin, hsegments, hseam⟩ := segmentsOf_join base h
  have hsilent : seam.filterMap segmentComponent? = [] := by rcases hseam with rfl | rfl <;> rfl
  unfold body
  rw [hjoin, hsegments, List.filterMap_append, List.filterMap_append, hsilent, List.append_nil]

theorem climbs_join {base path : String} (h : isAbsolute path = false) :
    Climbs (join base path) ↔ Climbs base ∨ Climbs path := by
  obtain ⟨before, seam, hjoin, hbase, hseam⟩ := segmentsOf_join base h
  rw [climbs_iff, climbs_iff, climbs_iff, hjoin, hbase]
  rcases hseam with rfl | rfl <;> simp

/-- A relative path joined onto a folder starts where the folder does. -/
theorem isAbsolute_join {base path : String} (h : isAbsolute path = false) :
    isAbsolute (join base path) = isAbsolute base := by
  have hrelative : ¬ isAbsolute path = true := by simp [h]
  unfold join
  rw [if_neg hrelative]
  cases hchars : base.toList with
  | nil =>
      have hempty : base = "" := String.toList_eq_nil_iff.mp hchars
      subst hempty
      simp only [beq_self_eq_true, Bool.or_true, if_true, String.empty_append]
      rw [h]
      rfl
  | cons c cs =>
      split
      · unfold isAbsolute
        rw [String.toList_append, hchars]
        rfl
      · unfold isAbsolute
        rw [String.toList_append, String.toList_append, hchars]
        rfl

/-- A joined path is the path itself or what it is joined onto, perhaps a slash, and the path. -/
theorem toList_join (base path : String) :
    join base path = path ∨
      ∃ seam, (seam = [] ∨ seam = ['/']) ∧
        (join base path).toList = base.toList ++ (seam ++ path.toList) := by
  unfold join
  split
  · exact Or.inl rfl
  · split
    · exact Or.inr ⟨[], Or.inl rfl, String.toList_append⟩
    · refine Or.inr ⟨['/'], Or.inr rfl, ?_⟩
      rw [String.toList_append, String.toList_append, List.append_assoc]
      rfl

theorem mem_join {base path : String} {c : Char} (h : c ∈ (join base path).toList) :
    c ∈ base.toList ∨ c = '/' ∨ c ∈ path.toList := by
  rcases toList_join base path with hself | ⟨seam, hseam, hjoin⟩
  · rw [hself] at h
    exact Or.inr (Or.inr h)
  · rw [hjoin, List.mem_append, List.mem_append] at h
    rcases h with h | h | h
    · exact Or.inl h
    · rcases hseam with rfl | rfl
      · cases h
      · exact Or.inr (Or.inl (List.mem_singleton.mp h))
    · exact Or.inr (Or.inr h)

/-- A joined path ends as the path does. -/
theorem getLast?_join (base : String) {path : String} (h : path.toList ≠ []) :
    (join base path).toList.getLast? = path.toList.getLast? := by
  rcases toList_join base path with hself | ⟨seam, -, hjoin⟩
  · rw [hself]
  · rw [hjoin, List.getLast?_append, List.getLast?_append, List.getLast?_eq_some_getLast h,
      Option.some_or, Option.some_or]

/-! ## Segments of a path that is filled in -/

/-- The text has a character other than a dot. -/
def HasName (cs : List Char) : Prop := ∃ c ∈ cs, c ≠ '.'

/-- Two segments are the same, or both stand for a name. -/
def SameStanding (s t : List Char) : Prop := s = t ∨ HasName s ∧ HasName t

theorem HasName.cons (d : Char) {cs : List Char} (h : HasName cs) : HasName (d :: cs) := by
  obtain ⟨c, hc, hdot⟩ := h
  exact ⟨c, List.mem_cons_of_mem d hc, hdot⟩

theorem HasName.append {cs after : List Char} (h : HasName cs) : HasName (cs ++ after) := by
  obtain ⟨c, hc, hdot⟩ := h
  exact ⟨c, List.mem_append_left _ hc, hdot⟩

theorem HasName.reverse {cs : List Char} (h : HasName cs) : HasName cs.reverse := by
  obtain ⟨c, hc, hdot⟩ := h
  exact ⟨c, List.mem_reverse.mpr hc, hdot⟩

theorem SameStanding.reverse {s t : List Char} (h : SameStanding s t) :
    SameStanding s.reverse t.reverse :=
  h.imp (congrArg List.reverse) fun ⟨hs, ht⟩ => ⟨hs.reverse, ht.reverse⟩

theorem SameStanding.cons (c : Char) {s t : List Char} (h : SameStanding s t) :
    SameStanding (c :: s) (c :: t) :=
  h.imp (congrArg (c :: ·)) fun ⟨hs, ht⟩ => ⟨hs.cons c, ht.cons c⟩

/-- What has the standing of two dots is two dots. -/
theorem SameStanding.eq_dots {s : List Char} (h : SameStanding s ['.', '.']) : s = ['.', '.'] := by
  refine h.resolve_right fun ⟨_, c, hc, hdot⟩ => hdot ?_
  simpa using hc

theorem segmentsOf_go_append {before : List Char} (h : '/' ∉ before) (current after : List Char) :
    segmentsOf.go current (before ++ after) = segmentsOf.go (before.reverse ++ current) after := by
  induction before generalizing current with
  | nil => rfl
  | cons c cs ih =>
      obtain ⟨hc, hcs⟩ := not_or.mp (mt List.mem_cons.mpr h)
      have hslash : (c == '/') = false := beq_eq_false_iff_ne.mpr (Ne.symm hc)
      rw [List.cons_append, segmentsOf.go, hslash, if_neg Bool.false_ne_true, ih hcs]
      simp

section Swapped

variable {pattern replacement text image : List Char} (hreplacement : '/' ∉ replacement)
  (hnew : HasName replacement) (h : Swapped pattern replacement text image)
include hreplacement hnew h

/-- No slash is put before a path. -/
theorem head_of_swapped (hslash : image.head? = some '/') : text.head? = some '/' := by
  cases h with
  | nil => exact hslash
  | kept => exact hslash
  | swapped =>
      obtain ⟨c, hc, -⟩ := hnew
      obtain ⟨d, rest, rfl⟩ := List.exists_cons_of_ne_nil (List.ne_nil_of_mem hc)
      obtain rfl := Option.some.inj hslash
      exact absurd List.mem_cons_self hreplacement

/-- No segment becomes two dots.  The induction carries what was read of the two segments. -/
theorem dots_of_swapped (hpattern : '/' ∉ pattern) (hname : HasName pattern)
    {current other : List Char} (hread : SameStanding current other)
    (hdots : ['.', '.'] ∈ segmentsOf.go other image) :
    ['.', '.'] ∈ segmentsOf.go current text := by
  induction h generalizing current other with
  | nil =>
      rw [segmentsOf.go, List.mem_singleton] at hdots ⊢
      exact (hdots ▸ hread.reverse).eq_dots.symm
  | kept c _ ih =>
      rw [segmentsOf.go] at hdots ⊢
      split at hdots
      next hc =>
        rw [if_pos hc]
        refine List.mem_cons.mpr ((List.mem_cons.mp hdots).imp (fun hread' => ?_) ?_)
        · exact (hread' ▸ hread.reverse).eq_dots.symm
        · exact ih (Or.inl rfl)
      next hc =>
        rw [if_neg hc]
        exact ih (hread.cons c) hdots
  | swapped _ ih =>
      -- Neither name ends the segment, and with either of them it has more than dots.
      rw [segmentsOf_go_append hpattern]
      rw [segmentsOf_go_append hreplacement] at hdots
      exact ih (Or.inr ⟨hname.reverse.append, hnew.reverse.append⟩) hdots

end Swapped

/-- Replacing names by names leads no path out of its folder. -/
theorem isConfined_replaced {pattern replacement path : String} (hpattern : '/' ∉ pattern.toList)
    (hreplacement : '/' ∉ replacement.toList) (hname : HasName pattern.toList)
    (hnew : HasName replacement.toList) (h : isConfined path = true) :
    isConfined (replaced pattern replacement path) = true := by
  obtain ⟨hrelative, hclimbs⟩ := isConfined_iff.mp h
  have hswapped : Swapped pattern.toList replacement.toList path.toList
      (replaced pattern replacement path).toList := by
    obtain ⟨c, hc, -⟩ := hname
    rw [replaced, String.toList_ofList]
    exact swapped_replaceAll (List.ne_nil_of_mem hc) _ _
  refine isConfined_iff.mpr ⟨?_, fun hnow => hclimbs ?_⟩
  · refine beq_eq_false_iff_ne.mpr fun hslash => beq_eq_false_iff_ne.mp hrelative ?_
    exact head_of_swapped hreplacement hnew hswapped hslash
  · rw [climbs_iff] at hnow ⊢
    exact dots_of_swapped hreplacement hnew hswapped hpattern hname (Or.inl rfl) hnow

end FormScaffold.Path
