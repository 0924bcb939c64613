import FormScaffold.Proofs.Calendar.Timestamps
import FormScaffold.Proofs.Form.TypeTags
import FormScaffold.Proofs.Naming.CaseStyles
import FormScaffold.Proofs.Naming.EntityName

/-!
# Names and types of a model

What a model gives to be put between marks is free of these marks: the names of the entity, of its
table and of its members, their types, and the instant.
-/

namespace FormScaffold

open Naming Text

/-! ## Plurals -/

namespace Naming

/-- A plural has the characters of the word, and of an ending. -/
theorem mem_plural {word : List Char} {c : Char} (h : c ∈ plural word) :
    c ∈ word ∨ c ∈ ['i', 'e', 's'] := by
  unfold plural at h
  dsimp only at h
  split_ifs at h
  · cases h
  · exact .inl h
  · exact (List.mem_append.mp h).imp_left fun hc => List.dropLast_subset _ hc
  · exact (List.mem_append.mp h).imp_right fun hc => List.mem_cons_of_mem _ hc
  · exact (List.mem_append.mp h).imp_right fun hc =>
      List.mem_cons_of_mem _ (List.mem_cons_of_mem _ hc)

end Naming

/-! ## Types -/

namespace TypeMapping

theorem frontendType_mem (logicalType : String) (required : Bool) (maxLength : Option Nat) :
    (mapFieldType logicalType required maxLength).frontendType ∈
      ["number", "boolean", "Date", "File", "string"] := by
  have hrules : ∀ rule ∈ fallbackRule :: typeRules,
      rule.frontend ∈ ["number", "boolean", "Date", "File", "string"] := by
    decide
  exact hrules _ (getD_typeRule?_mem logicalType)

theorem blank_not_mem_objectType (logicalType : String) (required : Bool)
    (maxLength : Option Nat) :
    ' ' ∉ (mapFieldType logicalType required maxLength).objectType.toList := by
  have hnames : ∀ (p : PropertyType) (required : Bool),
      ' ' ∉ (if required || p.isReference then p.name else p.name ++ "?").toList := by
    intro p required
    cases p <;> cases required <;> decide
  exact hnames _ required

/-- The columns whose types have no number that a form can give. -/
def namedColumns : List ColumnType :=
  [.unboundedText, .literal "INT", .literal "DECIMAL(18,2)", .literal "DATE", .literal "DATETIME2",
   .literal "TIME", .literal "BIT"]

/-- The type of a column is a text of some length, or one of few others. -/
theorem columnType_cases (logicalType : String) (required : Bool) (maxLength : Option Nat) :
    (∃ n : Nat, (mapFieldType logicalType required maxLength).columnType =
      textColumn (toString n)) ∨
    (mapFieldType logicalType required maxLength).columnType ∈
      namedColumns.map (ColumnType.name none) := by
  have hcolumns : ∀ rule ∈ fallbackRule :: typeRules, (∃ n, rule.column = .fixedText n) ∨
      rule.column = .sizedText ∨ rule.column ∈ namedColumns := by
    simp [typeRules, fallbackRule, namedColumns]
  have hmem := hcolumns _ (getD_typeRule?_mem logicalType)
  have htype : (mapFieldType logicalType required maxLength).columnType =
      ((typeRule? logicalType).getD fallbackRule).column.name maxLength := rfl
  rw [htype]
  generalize (typeRule? logicalType).getD fallbackRule = rule at hmem
  rcases hmem with ⟨n, hfixed⟩ | hsized | hnamed
  · exact .inl ⟨n, by rw [hfixed]; rfl⟩
  · rw [hsized]
    rcases maxLength with _ | _ | n
    · exact .inl ⟨_, rfl⟩
    · exact .inl ⟨_, rfl⟩
    · exact .inl ⟨_, rfl⟩
  · have hlength : ∀ column ∈ namedColumns, column.name maxLength = column.name none := by
      simp [namedColumns, ColumnType.name]
    rw [hlength _ hnamed]
    exact .inr (List.mem_map_of_mem hnamed)

/-- The marks behind the type of a column have no place in it, and no type ends with a comma. -/
def IsMarkFree (type : String) : Prop :=
  ' ' ∉ type.toList ∧ '\n' ∉ type.toList ∧ type.toList.getLast? ≠ some ','

instance (type : String) : Decidable (IsMarkFree type) :=
  inferInstanceAs (Decidable (_ ∧ _ ∧ _))

theorem isMarkFree_textColumn (n : Nat) : IsMarkFree (textColumn (toString n)) := by
  have htext : (textColumn (toString n)).toList = "NVARCHAR(".toList ++ Nat.toDigits 10 n ++
      ")".toList := by
    have hdigits : (toString n).toList = Nat.toDigits 10 n := Nat.toList_repr
    rw [textColumn, String.toList_append, String.toList_append, hdigits]
  have hfree : ∀ k : Char, k ∉ "NVARCHAR(".toList → k.isDigit = false → k ∉ ")".toList →
      k ∉ (textColumn (toString n)).toList := by
    intro k hstart hdigit hend hmem
    rw [htext, List.mem_append, List.mem_append] at hmem
    rcases hmem with (hmem | hmem) | hmem
    · exact hstart hmem
    · rw [Nat.isDigit_of_mem_toDigits (by decide) (by decide) hmem] at hdigit
      cases hdigit
    · exact hend hmem
  refine ⟨hfree ' ' (by decide) (by decide) (by decide),
    hfree '\n' (by decide) (by decide) (by decide), ?_⟩
  rw [htext, List.getLast?_append_of_ne_nil _ (by decide)]
  decide

theorem isMarkFree_columnType (logicalType : String) (required : Bool) (maxLength : Option Nat) :
    IsMarkFree (mapFieldType logicalType required maxLength).columnType := by
  have hnames : ∀ type ∈ namedColumns.map (ColumnType.name none), IsMarkFree type := by decide
  rcases columnType_cases logicalType required maxLength with ⟨n, hsized⟩ | hnamed
  · rw [hsized]
    exact isMarkFree_textColumn n
  · exact hnames _ hnamed

end TypeMapping

/-! ## Models -/

namespace Model

variable (form : FormDefinition) (options : GenerationOptions) (now : Calendar.Instant)

theorem marks_not_mem_entityName : ∀ k ∈ marks, k ∉ (build form options now).entityName.toList :=
  fun _ hk => mark_not_mem_entityName hk options.projectName

theorem marks_not_mem_entityNameCamel :
    ∀ k ∈ marks, k ∉ (build form options now).entityNameCamel.toList :=
  fun k hk => mark_not_mem_camelCase hk (marks_not_mem_entityName form options now k hk)

theorem marks_not_mem_tableName : ∀ k ∈ marks, k ∉ (build form options now).tableName.toList := by
  have hletters : 'i' ∉ marks ∧ 'e' ∉ marks ∧ 's' ∉ marks := by decide
  have htable : (build form options now).tableName.toList =
      plural (build form options now).entityName.toList := String.toList_ofList
  intro k hk hmem
  rw [htable] at hmem
  rcases mem_plural hmem with hname | hending
  · exact marks_not_mem_entityName form options now k hk hname
  · simp only [List.mem_cons, List.not_mem_nil, or_false] at hending
    rcases hending with rfl | rfl | rfl
    · exact hletters.1 hk
    · exact hletters.2.1 hk
    · exact hletters.2.2 hk

/-- The instant is written with digits and signs. -/
theorem break_not_mem_generatedAt : '\n' ∉ (build form options now).generatedAt.toList := by
  intro hmem
  rcases Calendar.mem_offsetText hmem with hdigit | hmark
  · exact absurd hdigit (by decide)
  · exact absurd hmark (by decide)

theorem break_not_mem_databaseTag : '\n' ∉ (build form options now).database.tag.toList := by
  cases (build form options now).database <;> decide

variable {form options now} {f : FieldModel} (hf : f ∈ (build form options now).fields)
include hf

theorem blank_not_mem_pascalName : ' ' ∉ f.pascalName.toList := by
  obtain ⟨field, -, rfl⟩ := List.mem_map.mp hf
  exact blank_not_mem_pascalCase field.trimmedName

theorem blank_not_mem_camelName : ' ' ∉ f.camelName.toList := by
  obtain ⟨field, -, rfl⟩ := List.mem_map.mp hf
  exact blank_not_mem_camelCase field.trimmedName

theorem blank_not_mem_objectType : ' ' ∉ f.types.objectType.toList := by
  obtain ⟨field, -, rfl⟩ := List.mem_map.mp hf
  exact TypeMapping.blank_not_mem_objectType field.fieldType field.required field.maxLength

theorem isMarkFree_columnType : TypeMapping.IsMarkFree f.types.columnType := by
  obtain ⟨field, -, rfl⟩ := List.mem_map.mp hf
  exact TypeMapping.isMarkFree_columnType field.fieldType field.required field.maxLength

theorem frontendType_mem :
    f.types.frontendType ∈ ["number", "boolean", "Date", "File", "string"] := by
  obtain ⟨field, -, rfl⟩ := List.mem_map.mp hf
  exact TypeMapping.frontendType_mem field.fieldType field.required field.maxLength

end Model

end FormScaffold
