import FormScaffold.Output.Readme
import FormScaffold.Proofs.Archive.Places

/-!
# Paths below a folder

Joining a relative path onto a folder only adds to the components of the folder, whatever slashes
and dots the two are written with: a leading dot of the path is a dot inside the joined path, which
counts for nothing.  What a confined path adds are its ordinary components, those that are names.

What is joined onto a folder is found again by leaving out the components of the folder.  The names
that are left, with slashes between them, are the path below the folder that the description of a
project shows and the name of an entry.  Packing names its entries so: what lies below the packed
folder is reached by joining names onto its path.
-/

namespace FormScaffold

namespace Path

/-! ## Ordinary components -/

/-- The component is neither the root nor made of dots. -/
def Component.isOrdinary : Component → Bool
  | .name _ => true
  | _ => false

/-- The ordinary components of a path. -/
def ordinary (path : String) : List Component := (components path).filter Component.isOrdinary

theorem ordinary_eq_names (path : String) : ordinary path = (names path).map .name := by
  have hbody : ordinary path = (body path).filter Component.isOrdinary := by
    unfold ordinary
    rcases components_cases path with ⟨-, h⟩ | ⟨-, h⟩ | ⟨-, h⟩ <;> rw [h]
    · exact List.filter_cons_of_neg nofun
    · exact List.filter_cons_of_neg nofun
  rw [hbody, body, names, List.filter_filterMap, List.map_filterMap]
  refine List.filterMap_congr fun s _ => ?_
  unfold segmentName?
  cases segmentComponent? s with
  | none => rfl
  | some c => cases c <;> rfl

/-- After the root or a leading dot a confined path has ordinary components only. -/
theorem body_eq_ordinary {path : String} (h : isConfined path = true) :
    body path = ordinary path := by
  rw [ordinary_eq_names]
  exact body_eq_names (of_isConfined h).2

/-! ## Joined paths -/

/-- A folder that is not the empty path keeps its first segment when a relative path is joined
onto it. -/
theorem head?_segmentsOf_join {base path : String} (hbase : base ≠ "")
    (h : isAbsolute path = false) :
    (segmentsOf (join base path).toList).head? = (segmentsOf base.toList).head? := by
  obtain ⟨before, seam, hjoin, hsegments, hseam⟩ := segmentsOf_join base h
  -- Only the empty path has nothing in front of the seam.
  have hbefore : before ≠ [] := by
    rintro rfl
    have htext := intercalate_segmentsOf base.toList
    rw [hsegments] at htext
    refine hbase (String.toList_eq_nil_iff.mp (htext.symm.trans ?_))
    rcases hseam with rfl | rfl <;> rfl
  rw [hjoin, hsegments, List.head?_append_of_ne_nil _ hbefore,
    List.head?_append_of_ne_nil _ hbefore]

/-- A relative path adds its components, without a leading dot, to those of the folder. -/
theorem components_join {base path : String} (hbase : base ≠ "") (h : isAbsolute path = false) :
    components (join base path) = components base ++ body path := by
  rw [components_eq, components_eq base, isAbsolute_join h, head?_segmentsOf_join hbase h,
    body_join h, List.append_assoc]

/-- Exactly the absolute paths and those that climb are not confined. -/
theorem isConfined_eq_false_iff {path : String} :
    isConfined path = false ↔ isAbsolute path = true ∨ .parent ∈ components path := by
  rw [← Bool.not_eq_true, isConfined_iff, not_and_or, Bool.not_eq_false, not_not]
  rfl

theorem isConfined_join {p q : String} (hp : isConfined p = true) (hq : isConfined q = true) :
    isConfined (join p q) = true := by
  obtain ⟨hp, hpdown⟩ := isConfined_iff.mp hp
  obtain ⟨hq, hqdown⟩ := isConfined_iff.mp hq
  refine isConfined_iff.mpr ⟨(isAbsolute_join hq).trans hp, fun hclimbs => ?_⟩
  exact ((climbs_join hq).mp hclimbs).elim hpdown hqdown

theorem join_ne_empty {base path : String} (hbase : base ≠ "") (h : isAbsolute path = false) :
    join base path ≠ "" := by
  intro hempty
  unfold join at hempty
  rw [if_neg (by simp [h])] at hempty
  split at hempty
  · exact hbase (String.append_eq_empty_iff.mp hempty).1
  · exact hbase (String.append_eq_empty_iff.mp (String.append_eq_empty_iff.mp hempty).1).1

/-- Two confined paths joined onto a folder add their ordinary components in turn. -/
theorem components_join_join {d p q : String} (hd : d ≠ "") (hp : isConfined p = true)
    (hq : isConfined q = true) :
    components (join (join d p) q) = components d ++ (ordinary p ++ ordinary q) := by
  have hp' := (of_isConfined hp).1
  rw [components_join (join_ne_empty hd hp') (of_isConfined hq).1, components_join hd hp',
    body_eq_ordinary hp, body_eq_ordinary hq, List.append_assoc]

theorem relativeTo?_eq_some {base path : String} {rest : List Component}
    (h : components path = components base ++ rest) : relativeTo? base path = some rest := by
  unfold relativeTo? startsWith
  rw [h, if_pos (List.isPrefixOf_iff_prefix.mpr (List.prefix_append _ _)), List.drop_left]

/-! ## Names put together again -/

/-- A name of a path has no slash and stands for itself. -/
theorem of_mem_names {path s : String} (h : s ∈ names path) :
    '/' ∉ s.toList ∧ segmentComponent? s.toList = some (.name s) := by
  obtain ⟨segment, hsegment, hname⟩ := List.mem_filterMap.mp h
  have hcomponent : segmentComponent? segment = some (.name s) := by
    unfold segmentName? at hname
    split at hname
    · cases hname
      assumption
    · cases hname
  have htext : s.toList = segment := by
    unfold segmentComponent? at hcomponent
    split at hcomponent
    · cases hcomponent
    · split at hcomponent <;> cases hcomponent
      exact String.toList_ofList
  rw [htext]
  exact ⟨slash_not_mem_of_mem_segmentsOf hsegment, hcomponent⟩

/-- Names with slashes between them make up a path that has them as its components. -/
theorem components_intercalate {rel : List String}
    (h : ∀ s ∈ rel, '/' ∉ s.toList ∧ segmentComponent? s.toList = some (.name s)) :
    components (String.intercalate "/" rel) = rel.map .name := by
  cases rel with
  | nil => rfl
  | cons s rest =>
      have hsegments : segmentsOf (String.intercalate "/" (s :: rest)).toList =
          (s :: rest).map String.toList := by
        rw [String.toList_intercalate]
        refine segmentsOf_intercalate (by simp) fun r hr => ?_
        obtain ⟨name, hname, rfl⟩ := List.mem_map.mp hr
        exact (h name hname).1
      -- The first name is neither empty nor a dot, so the path starts with no component but names.
      have hfirst := (h s List.mem_cons_self).2
      have hrelative : ¬ isAbsolute (String.intercalate "/" (s :: rest)) = true := by
        rw [isAbsolute_iff]
        rintro ⟨r, more, hroot⟩
        rw [hsegments] at hroot
        rw [(List.cons.inj hroot).1] at hfirst
        cases hfirst
      have hdot : ((s :: rest).map String.toList).head? ≠ some ['.'] := fun hhead => by
        rw [Option.some.inj hhead] at hfirst
        cases hfirst
      rw [components_eq, if_neg hrelative, body, hsegments, if_neg hdot, List.nil_append,
        List.filterMap_map, ← List.filterMap_eq_map]
      exact List.filterMap_congr fun r hr => (h r hr).2

/-- The ordinary components of two paths make up a path that has no others. -/
theorem components_ordinary (p q : String) :
    components (String.intercalate "/" ((ordinary p ++ ordinary q).map Component.text)) =
      ordinary p ++ ordinary q := by
  have htext : Component.text ∘ Component.name = id := rfl
  rw [ordinary_eq_names, ordinary_eq_names, ← List.map_append, List.map_map, htext, List.map_id]
  exact components_intercalate fun s hs => (List.mem_append.mp hs).elim of_mem_names of_mem_names

end Path

open Files Path

/-! ## What is left of a path -/

/-- A path below a folder is shown by the names that are left of it. -/
theorem Output.pathBelow_eq {root path : String} {rest : List Component}
    (h : components path = components root ++ rest) :
    pathBelow root path = String.intercalate "/" (rest.map Component.text) := by
  unfold pathBelow
  rw [relativeTo?_eq_some h, Option.getD_some]

namespace Archive

theorem entryName?_eq {source path : String} {rest : List Component}
    (h : components path = components source ++ rest) : entryName? source path =
      if rest = [] then none else some (String.intercalate "/" (rest.map Component.text)) := by
  unfold entryName?
  rw [relativeTo?_eq_some h]
  cases rest <;> rfl

/-! ## Names of entries -/

/-- The path of what lies at a place below a folder: the names on the way there are joined onto the
folder one after the other. -/
def walked (source : String) (rel : Location) : String := rel.foldl join source

theorem components_walked {source : String} (hsource : source ≠ "") {rel : Location}
    (h : ∀ s ∈ rel, IsName s) :
    components (walked source rel) = components source ++ rel.map .name := by
  -- The induction is on the names that are left, from every folder on the way.
  induction rel generalizing source with
  | nil =>
      rw [List.map_nil, List.append_nil]
      rfl
  | cons s rest ih =>
      obtain ⟨hs, hrest⟩ := List.forall_mem_cons.mp h
      obtain ⟨hnames, hrelative, hdown⟩ := hs.names
      have hnext : walked source (s :: rest) = walked (join source s) rest := rfl
      rw [hnext, ih (join_ne_empty hsource hrelative) hrest, components_join hsource hrelative,
        body_eq_names hdown, hnames, List.append_assoc]
      rfl

/-- Packing names each entry by the path of what it is for, as seen from the packed folder. -/
theorem entryName?_walked {fs : FileSystem} (h : fs.Sound) {source : String}
    {place : Location × Node} (hmem : place ∈ fs.belowPath source) :
    ∃ name, entryName? source (walked source place.1) = some name ∧
      (entryOf place).name = name ++ (if place.2 = .folder then "/" else "") := by
  -- At the empty path there is nothing, so nothing lies below it.
  have hsource : source ≠ "" := by
    rintro rfl
    exact absurd hmem List.not_mem_nil
  obtain ⟨l, hl⟩ : ∃ l, place ∈ fs.below l := by
    unfold FileSystem.belowPath at hmem
    split at hmem
    · exact ⟨_, hmem⟩
    · cases hmem
  obtain ⟨hgiven, hnode⟩ := (FileSystem.mem_below h.sorted l place.1 place.2).mp hl
  have hnames : ∀ s ∈ place.1, IsName s := fun s hs =>
    h.named (l ++ place.1) (by rw [hnode]; simp) s (List.mem_append_right l hs)
  refine ⟨entryName place.1, ?_, entryOf_name place.1 place.2⟩
  rw [entryName?_eq (components_walked hsource hnames), if_neg (by simpa using hgiven),
    List.map_map]
  exact congrArg (fun rel => some (String.intercalate "/" rel)) (List.map_id' place.1)

end Archive

/-! ## Confined paths -/

/-- Of confined paths one joined onto the other is confined, and joined onto a folder they add
their ordinary components to those of the folder.  These are what is left when the folder's are
left out; with slashes between them they are the path below the folder and the name of an entry,
if there are any, and that path has them as its components.  Not confined are exactly the paths
that are absolute or have a component `..`. -/
theorem confined_paths_below {d p q : String} (hd : d ≠ "") (hp : isConfined p = true)
    (hq : isConfined q = true) :
    isConfined (join p q) = true ∧
    components (join (join d p) q) = components d ++ (ordinary p ++ ordinary q) ∧
    relativeTo? d (join (join d p) q) = some (ordinary p ++ ordinary q) ∧
    Output.pathBelow d (join (join d p) q) =
      String.intercalate "/" ((ordinary p ++ ordinary q).map Component.text) ∧
    Archive.entryName? d (join (join d p) q) =
      (if ordinary p ++ ordinary q = [] then none
        else some (String.intercalate "/" ((ordinary p ++ ordinary q).map Component.text))) ∧
    components (Output.pathBelow d (join (join d p) q)) = ordinary p ++ ordinary q ∧
    ∀ path, isConfined path = false ↔ isAbsolute path = true ∨ .parent ∈ components path := by
  have hjoined := components_join_join hd hp hq
  have hshown := Output.pathBelow_eq hjoined
  refine ⟨isConfined_join hp hq, hjoined, relativeTo?_eq_some hjoined, hshown,
    Archive.entryName?_eq hjoined, ?_, fun path => isConfined_eq_false_iff⟩
  rw [hshown, components_ordinary]

theorem untidyPaths_below :
    (".//x/.." ≠ "" ∧ isConfined "./a//b/" = true ∧ isConfined "././c." = true) ∧
    isConfined (join "./a//b/" "././c.") = true ∧
    components (join (join ".//x/.." "./a//b/") "././c.") =
      components ".//x/.." ++ [.name "a", .name "b", .name "c."] ∧
    Output.pathBelow ".//x/.." (join (join ".//x/.." "./a//b/") "././c.") = "a/b/c." ∧
    Archive.entryName? ".//x/.." (join (join ".//x/.." "./a//b/") "././c.") = some "a/b/c." := by
  have hp : isConfined "./a//b/" = true := by decide
  have hq : isConfined "././c." = true := by decide
  obtain ⟨hconfined, hcomponents, -, hshown, hentry, -⟩ :=
    confined_paths_below (d := ".//x/..") (by decide) hp hq
  exact ⟨⟨by decide, hp, hq⟩, hconfined, hcomponents, hshown, hentry⟩

end FormScaffold
