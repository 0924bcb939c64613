import FormScaffold.Options.Family
import FormScaffold.Proofs.Naming.EntityName
import FormScaffold.Proofs.Path.Names
import FormScaffold.Proofs.Registry.Building
import FormScaffold.Registry.Standard

/-!
# Names of the files of a registry

The pattern of a file's name is a relative path that does not climb, and an entity's name in place
of the placeholder keeps it so.

The name of each standard file is a fixed text, or the entity's name between two fixed texts.
Two such names differ for every entity when neither of the texts at their ends is an end of
the other, or when the fixed texts have different lengths.  All standard files, and the two
files about a project folder, differ from each other in this way.
-/

namespace FormScaffold.Registry

open Naming Path Text

/-! ## Files of a built registry -/

/-- Every template of a built registry makes a file with a name, inside its folder. -/
theorem outputFileName_of_built {root : String} {entries : List TemplateEntry} {r : Registry}
    (hbuilt : build root entries = .ok r) {e : TemplateEntry} (he : e ∈ r.entries)
    (project : String) :
    isBlankText (e.outputFileName (entityName project)) = false ∧
      isConfined (e.outputFileName (entityName project)) = true := by
  have hsound := sound_of_built hbuilt he
  have hentity : HasName (entityName project).toList := by
    obtain ⟨c, rest, hname, hletter⟩ := entityOf_head project.toList
    refine ⟨c, ?_, ?_⟩
    · rw [entityName, String.toList_ofList, hname]
      exact List.mem_cons_self
    · rintro rfl
      exact absurd hletter (by decide)
  exact ⟨isBlankText_outputFileName hsound (isBlankText_entityName project),
    isConfined_replaced (by decide) (slash_not_mem_entityName project)
      ⟨'E', by decide, by decide⟩ hentity (isConfined_iff.mpr hsound.confined)⟩

/-! ## Names of the standard files -/

/-- What a file is called: a fixed end, after the entity's name and a fixed start if the name
has the entity in it. -/
structure NameShape where
  start : List Char
  ending : List Char
  withEntity : Bool
  deriving DecidableEq

namespace NameShape

/-- The name for an entity. -/
def fill (entity : List Char) (s : NameShape) : List Char :=
  if s.withEntity then s.start ++ (entity ++ s.ending) else s.ending

/-- The fixed texts around the entity. -/
def parts (s : NameShape) : List (List Char) :=
  if s.withEntity then [s.start, s.ending] else [s.ending]

/-- Two names that differ whatever the entity is. -/
def Apart (a b : NameShape) : Prop :=
  (a.ending.isSuffixOf b.ending = false ∧ b.ending.isSuffixOf a.ending = false) ∨
  (a.withEntity = true ∧ b.withEntity = true ∧
    a.start.length + a.ending.length ≠ b.start.length + b.ending.length)

instance (a b : NameShape) : Decidable (Apart a b) := by
  unfold Apart
  infer_instance

theorem intercalate_parts (entity : List Char) (s : NameShape) :
    List.intercalate entity s.parts = s.fill entity := by
  unfold parts fill
  cases s.withEntity <;> simp [List.intercalate, List.intersperse]

theorem ending_suffix_fill (entity : List Char) (s : NameShape) : s.ending <:+ s.fill entity := by
  unfold fill
  split
  · exact ⟨s.start ++ entity, by simp⟩
  · exact List.suffix_refl _

/-- Shapes that are apart give different names. -/
theorem Apart.fill_ne {a b : NameShape} (h : Apart a b) (entity : List Char) :
    a.fill entity ≠ b.fill entity := by
  intro hsame
  rcases h with ⟨hab, hba⟩ | ⟨ha, hb, hlength⟩
  · have hsuffix := ending_suffix_fill entity a
    rw [hsame] at hsuffix
    rcases List.suffix_or_suffix_of_suffix hsuffix (ending_suffix_fill entity b) with h | h
    · rw [List.isSuffixOf_iff_suffix.mpr h] at hab
      cases hab
    · rw [List.isSuffixOf_iff_suffix.mpr h] at hba
      cases hba
  · have := congrArg List.length hsame
    simp only [fill, ha, hb, if_true, List.length_append] at this
    omega

end NameShape

open NameShape

/-- The names of the standard files, in the order of their entries. -/
def standardShapes : List NameShape :=
  [⟨[], ".cs".toList, true⟩, ⟨"I".toList, "Repository.cs".toList, true⟩,
   ⟨[], "Repository.cs".toList, true⟩, ⟨[], "Controller.cs".toList, true⟩,
   ⟨[], "Dto.cs".toList, true⟩, ⟨[], "MappingProfile.cs".toList, true⟩,
   ⟨[], "Validator.cs".toList, true⟩, ⟨[], "Tests.cs".toList, true⟩,
   ⟨[], "_Table.sql".toList, true⟩, ⟨[], "_Procedures.sql".toList, true⟩,
   ⟨[], "Form.tsx".toList, true⟩, ⟨[], "List.tsx".toList, true⟩, ⟨[], ".types.ts".toList, true⟩,
   ⟨[], ".schema.ts".toList, true⟩, ⟨[], ".csproj".toList, true⟩,
   ⟨[], "Dockerfile".toList, false⟩, ⟨"build-".toList, ".yml".toList, true⟩,
   ⟨[], "appsettings.json".toList, false⟩]

/-- The names of the files about a project folder. -/
def aboutShapes : List NameShape :=
  [⟨[], "README.md".toList, false⟩, ⟨[], ".gitignore".toList, false⟩]

theorem splitAt_standardEntries :
    standardEntries.map (fun e =>
      Text.splitAt TemplateEntry.placeholder.toList e.outputPattern.toList) =
      standardShapes.map parts := by
  decide

theorem shapes_apart : (standardShapes ++ aboutShapes).Pairwise Apart := by
  decide

/-- Of every shape the fixed texts have no slash, and the end is no dot, nor does it end in one
of the characters that end the name of a folder. -/
theorem shapes_plain : ∀ s ∈ standardShapes ++ aboutShapes, '/' ∉ s.start ∧ '/' ∉ s.ending ∧
    2 < s.ending.length ∧ s.ending.getLast? ≠ some '/' ∧ s.ending.getLast? ≠ some '\\' := by
  decide

/-- The files that the standard templates make have the names of the shapes. -/
theorem outputFileNames_standard (entity : String) :
    standardEntries.map (fun e => (e.outputFileName entity).toList) =
      standardShapes.map (fill entity.toList) := by
  have hnames : ∀ e : TemplateEntry, (e.outputFileName entity).toList =
      List.intercalate entity.toList
        (Text.splitAt TemplateEntry.placeholder.toList e.outputPattern.toList) := by
    intro e
    unfold TemplateEntry.outputFileName Text.replaced
    rw [String.toList_ofList]
    rfl
  simp only [hnames]
  have := congrArg (List.map (List.intercalate entity.toList)) splitAt_standardEntries
  simpa only [List.map_map, Function.comp_def, intercalate_parts] using this

/-- The names of all standard files and of the two about the folder are different. -/
theorem fileNames_nodup (entity : String) :
    (standardEntries.map (fun e => (e.outputFileName entity).toList) ++
      aboutShapes.map (fill entity.toList)).Nodup := by
  rw [outputFileNames_standard, ← List.map_append]
  exact List.pairwise_map.mpr (shapes_apart.imp fun h => h.fill_ne entity.toList)

/-- The name of a file about a folder or of a standard file is one plain name, which ends as
the name of no folder does. -/
theorem plain_of_shape {s : NameShape} (hs : s ∈ standardShapes ++ aboutShapes)
    {entity name : String} (hentity : '/' ∉ entity.toList)
    (hname : name.toList = s.fill entity.toList) :
    '/' ∉ name.toList ∧ 2 < name.toList.length ∧ name.toList.getLast? ≠ some '/' ∧
      name.toList.getLast? ≠ some '\\' := by
  obtain ⟨hstart, hending, hlength, hlast, hlast'⟩ := shapes_plain s hs
  obtain ⟨before, hbefore⟩ := ending_suffix_fill entity.toList s
  have hne : s.ending ≠ [] := by
    intro h
    simp [h] at hlength
  have hend : name.toList.getLast? = s.ending.getLast? := by
    rw [hname, ← hbefore, List.getLast?_append, List.getLast?_eq_some_getLast hne, Option.some_or]
  refine ⟨?_, ?_, by rw [hend]; exact hlast, by rw [hend]; exact hlast'⟩
  · rw [hname, fill]
    split
    · simp [hstart, hentity, hending]
    · exact hending
  · rw [hname, ← hbefore, List.length_append]
    omega

/-! ### The standard registry -/

theorem get?_standardEntries :
    ∀ e ∈ standardEntries, Keyed.get? e.name (latest standardEntries) = some e := by
  decide

/-- The standard templates make a registry below any root. -/
theorem standard_built (root : String) :
    standard root = .ok ⟨root, latest standardEntries⟩ := by
  have hsound : ∀ e ∈ standardEntries, e.Sound := by decide +kernel
  exact build_eq_ok.mpr ⟨rfl, fun e he => hsound e he.mem⟩

/-- The templates of all families are those of the standard entries, in their order. -/
theorem family_templates_standard :
    (Family.all.flatMap Family.templates).map FamilyTemplate.name =
      standardEntries.map TemplateEntry.name := by
  decide

theorem enabled_templates_sublist (o : GenerationOptions) :
    ((Family.enabled o).flatMap Family.templates).Sublist
      (Family.all.flatMap Family.templates) := by
  unfold Family.enabled
  induction Family.all with
  | nil => simp
  | cons family rest ih =>
      rw [List.filter_cons]
      split
      · rw [List.flatMap_cons, List.flatMap_cons]
        exact ih.append_left _
      · rw [List.flatMap_cons]
        exact ih.trans (List.sublist_append_right _ _)

/-- The file that a template of the standard registry makes. -/
def standardFile? (entity name : String) : Option String :=
  (Keyed.get? name (latest standardEntries)).map fun e => e.outputFileName entity

/-- Different templates of the standard registry make files with different names. -/
theorem standardFiles_sublist {ts : List FamilyTemplate}
    (hts : ts.Sublist (Family.all.flatMap Family.templates)) {entity : String}
    {files : List String}
    (hfiles : ts.map (fun t => standardFile? entity t.name) = files.map some) :
    files.Sublist (standardEntries.map fun e => e.outputFileName entity) := by
  have hall : (Family.all.flatMap Family.templates).map (fun t => standardFile? entity t.name) =
      (standardEntries.map fun e => e.outputFileName entity).map some := by
    have hnames := congrArg (List.map (standardFile? entity)) family_templates_standard
    rw [List.map_map, List.map_map] at hnames
    refine Eq.trans hnames ?_
    rw [List.map_map]
    refine List.map_congr_left fun e he => ?_
    simp [standardFile?, get?_standardEntries e he]
  have hsub := hts.map fun t => standardFile? entity t.name
  rw [hfiles, hall] at hsub
  simpa [List.filterMap_map] using hsub.filterMap id

end FormScaffold.Registry
