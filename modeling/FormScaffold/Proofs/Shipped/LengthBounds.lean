import FormScaffold.Proofs.Form.TypeTags
import FormScaffold.Proofs.Shipped.ClassReading
import FormScaffold.Proofs.Shipped.DatabaseLayer

/-!
# Bounds on the length of texts

Three templates bound the length of a field's text, and a fourth makes the column that holds it.
A bound is always the field's own greatest length.  The column of a plain text, an address or a
number to call has just that length; that of a choice, a file or a text of an unknown type has a
length of its own, whatever the bound.
-/

namespace FormScaffold.Rules

open Template Shipped Sql Text Reader

variable (world : Functions.World) (m : Model)

/-! ## The templates with bounds -/

theorem renders_entity : Renders world "entity" m (Entity.ofModel m).text :=
  plain_entity (m.seen_given world.now) ▸ renders_of_reads
    (mem_sources_of_entry "object_model/entity.cs.tera" (by decide) rfl)
    reads_entity world m

theorem renders_validator : Renders world "validator" m (Validator.ofModel m).text :=
  plain_validator (m.seen_given world.now) ▸ renders_of_reads
    (mem_sources_of_entry "object_model/validator.cs.tera" (by decide) rfl)
    reads_validator world m

theorem renders_validationSchema : Renders world "validation_schema" m (Schema.ofModel m).text :=
  plain_validationSchema (m.seen_given world.now) ▸ renders_of_reads
    (mem_sources_of_entry "ui/validation_schema.ts.tera" (by decide) rfl)
    reads_validationSchema world m

/-! ## Bounds -/

/-- Some template bounds the length of a field's text: the entity, its validator or, if the
property holds a text, the schema of the form. -/
inductive Bounds (f : FieldModel) (n : Nat) : Prop where
  | entity (h : (Property.ofField f).maxLength = some n)
  | validator (hrules : hasRules f = true) (h : (Rule.ofField f).maximumLength = some n)
  | schema (htext : f.types.objectType = PropertyType.string.name) {checks : TextChecks}
      (hchecks : (Member.ofField f).checks = some checks) (h : checks.most = some n)

/-- A bound is the greatest length of a text that is not a text area. -/
theorem Bounds.given {f : FieldModel} {n : Nat} (h : Bounds f n) :
    f.maxLength = some n ∧ 0 < n ∧ f.types.objectType = PropertyType.string.name ∧
      f.typeTag ≠ "textarea" := by
  cases h with
  | entity h => exact textBound_eq h
  | validator _ h => exact textBound_eq h
  | schema htext hchecks h =>
      obtain ⟨-, hchecks⟩ := Option.ite_none_right_eq_some.mp hchecks
      cases hchecks
      obtain ⟨hmost, htag⟩ := Option.filter_eq_some_iff.mp h
      obtain ⟨hlength, hpos⟩ := Option.filter_eq_some_iff.mp hmost
      exact ⟨hlength, Nat.pos_of_ne_zero (by simpa using hpos), htext, by simpa using htag⟩

/-- The length of the column for a text of a type whose greatest length is `n`. -/
def columnLength (typeTag : String) (n : Nat) : Nat :=
  if ["text", "email", "url", "tel"].contains typeTag then n
  else if ["select", "radio"].contains typeTag then 100
  else if typeTag == "file" then 500
  else 255

/-- The rows of the table whose properties hold texts. -/
def textRules : List TypeRule := typeRules.filter fun rule => rule.property == .string

theorem columnLength_unknown {tag : String} (h : ∀ rule ∈ textRules, tag ∉ rule.logicalTypes)
    (n : Nat) : columnLength tag n = defaultTextLength := by
  have hsized := h ⟨["text", "email", "url", "tel"], .string, .sizedText, "string"⟩ (by decide)
  have hchoice := h ⟨["select", "radio"], .string, .fixedText 100, "string"⟩ (by decide)
  have hfile := h ⟨["file"], .string, .fixedText 500, "File"⟩ (by decide)
  unfold columnLength
  rw [if_neg (by simpa using hsized), if_neg (by simpa using hchoice),
    if_neg (by simpa using hfile)]
  rfl

/-- A row with texts of a bounded length makes a column of the length for its types. -/
theorem columnName_textRule {rule : TypeRule} (hrule : rule ∈ textRules) {tag : String}
    (htag : tag ∈ rule.logicalTypes) (harea : tag ≠ "textarea") {n : Nat} (hn : 0 < n) :
    rule.column.name (some n) = textColumn (toString (columnLength tag n)) := by
  obtain ⟨k, rfl⟩ := Nat.exists_eq_succ_of_ne_zero (Nat.ne_of_gt hn)
  have hrules : textRules = [⟨["text", "email", "url", "tel"], .string, .sizedText, "string"⟩,
      ⟨["textarea"], .string, .unboundedText, "string"⟩,
      ⟨["select", "radio"], .string, .fixedText 100, "string"⟩,
      ⟨["file"], .string, .fixedText 500, "File"⟩] := by decide
  simp only [hrules, List.mem_cons, List.not_mem_nil, or_false] at hrule
  obtain rfl | rfl | rfl | rfl := hrule
  · simp only [List.mem_cons, List.not_mem_nil, or_false] at htag
    obtain rfl | rfl | rfl | rfl := htag <;> rfl
  · exact absurd (List.mem_singleton.mp htag) harea
  · simp only [List.mem_cons, List.not_mem_nil, or_false] at htag
    obtain rfl | rfl := htag <;> rfl
  · rw [List.mem_singleton.mp htag]
    rfl

theorem property_of_objectType {rule : TypeRule} {required : Bool} {maxLength : Option Nat}
    (h : (rule.mapping required maxLength).objectType = PropertyType.string.name) :
    rule.property = .string := by
  have hnamed : ∀ (p : PropertyType) (required : Bool),
      (if required || p.isReference then p.name else p.name ++ "?") = PropertyType.string.name →
        p = .string := by
    intro p required
    cases p <;> cases required <;> decide
  exact hnamed rule.property required h

/-- The column of a text with a bound has the length for the type of its field. -/
theorem columnType_bounded {logicalType : String} {required : Bool} {n : Nat} (hn : 0 < n)
    (htext : (mapFieldType logicalType required (some n)).objectType = PropertyType.string.name)
    (harea : typeTag logicalType ≠ "textarea") :
    (mapFieldType logicalType required (some n)).columnType =
      textColumn (toString (columnLength (typeTag logicalType) n)) := by
  unfold mapFieldType at htext ⊢
  cases hrule : typeRule? logicalType with
  | some rule =>
      rw [hrule, Option.getD_some] at htext
      obtain ⟨hmem, htag⟩ := typeRule?_eq_some_iff.mp hrule
      have htextRule : rule ∈ textRules :=
        List.mem_filter.mpr ⟨hmem, beq_iff_eq.mpr (property_of_objectType htext)⟩
      exact columnName_textRule htextRule htag harea hn
  | none =>
      have hunknown : ∀ rule ∈ textRules, typeTag logicalType ∉ rule.logicalTypes :=
        fun rule hmem => typeRule?_eq_none_iff.mp hrule rule (List.mem_filter.mp hmem).1
      rw [columnLength_unknown hunknown]
      rfl

theorem types_ofField (field : FormField) : (FieldModel.ofField field).types =
    mapFieldType field.fieldType field.required field.maxLength := rfl

theorem typeTag_ofField (field : FormField) :
    (FieldModel.ofField field).typeTag = typeTag field.fieldType := rfl

theorem type_ofField (f : FieldModel) : (Column.ofField f).type = f.types.columnType := rfl

/-- With the model of every form under all options at all times, the four templates make the written
forms of an entity, its validator, a schema and a table, in which the column of every field whose
text is bounded by `n` has the length for the field's type: `n` itself for a plain text, an
address or a number to call, and the length of its own otherwise.  The class of the entity and the
table are read back as what they declare, and so are the rules of the validator if no name has the
bracket behind names and no label in a message has a quote. -/
theorem bounded_text_columns (form : FormDefinition) (options : GenerationOptions)
    (now : Calendar.Instant) (world : Functions.World) :
    Renders world "entity" (Model.build form options now)
      (Entity.ofModel (Model.build form options now)).text ∧
    Renders world "validator" (Model.build form options now)
      (Validator.ofModel (Model.build form options now)).text ∧
    Renders world "validation_schema" (Model.build form options now)
      (Schema.ofModel (Model.build form options now)).text ∧
    Renders world "create_table" (Model.build form options now)
      (Table.ofModel (Model.build form options now)).text ∧
    HasClass (Entity.ofModel (Model.build form options now)).text
      (Model.build form options now).entityName
      (Entity.ofModel (Model.build form options now)).declarations ∧
    ((∀ f ∈ (Model.build form options now).fields, IsRuleLegible f) →
      HasRules (Validator.ofModel (Model.build form options now)).text
        (Validator.ofModel (Model.build form options now)).rules) ∧
    Reads tableReader (Table.ofModel (Model.build form options now)).text
      (Table.ofModel (Model.build form options now)) ∧
    ∀ field ∈ form.fields, ∀ n, Bounds (FieldModel.ofField field) n →
      (Column.ofField (FieldModel.ofField field)).type =
        textColumn (toString (columnLength (typeTag field.fieldType) n)) := by
  refine ⟨renders_entity world _, renders_validator world _, renders_validationSchema world _,
    renders_createTable world _, hasClass_entity form options now, hasRules_validator,
    (isLegible_table form options now).reads, fun field _ n h => ?_⟩
  obtain ⟨hlength, hpos, htext, harea⟩ := h.given
  have hlength : field.maxLength = some n := hlength
  rw [typeTag_ofField] at harea
  rw [types_ofField, hlength] at htext
  rw [type_ofField, types_ofField, hlength]
  exact columnType_bounded hpos htext harea

/-- A text of at most forty characters. -/
def titleField : FormField := ⟨"title", "text", true, none, none, none, some 40, none, none, []⟩

/-- A choice whose value has at most five hundred characters. -/
def sizeField : FormField := ⟨"size", "select", false, none, none, none, some 500, none, none, []⟩

/-- The model of a form with both fields. -/
def catalogModel : Model :=
  Model.build ⟨none, none, [titleField, sizeField]⟩ (.bare "catalog") ⟨0, 0⟩

theorem titleField_column :
    Bounds (FieldModel.ofField titleField) 40 ∧
    (Column.ofField (FieldModel.ofField titleField)).type =
      textColumn (toString (columnLength (typeTag titleField.fieldType) 40)) := by
  have hbounds : Bounds (FieldModel.ofField titleField) 40 := .entity (by decide)
  exact ⟨hbounds, (bounded_text_columns ⟨none, none, [titleField, sizeField]⟩ (.bare "catalog")
    ⟨0, 0⟩ ⟨⟨0, 0⟩, []⟩).2.2.2.2.2.2.2 titleField List.mem_cons_self 40 hbounds⟩

/-- All three templates bound the choice, and no length that its column may have is that great. -/
theorem sizeField_misfits :
    FormDefinition.validate ⟨none, none, [titleField, sizeField]⟩ = .ok () ∧
    Renders ⟨⟨0, 0⟩, []⟩ "entity" catalogModel (Entity.ofModel catalogModel).text ∧
    (Entity.ofModel catalogModel).properties.map Property.text =
      ["\n    [Required]\n    [MaxLength(40)]\n" ++
        "    public string Title \x7b get; set; \x7d = string.Empty;\n",
       "\n    [MaxLength(500)]\n    public string Size \x7b get; set; \x7d\n"] ∧
    Renders ⟨⟨0, 0⟩, []⟩ "validator" catalogModel (Validator.ofModel catalogModel).text ∧
    (Validator.ofModel catalogModel).rules.map Rule.text =
      ["        RuleFor(x => x.Title)\n            .NotEmpty().WithMessage(\"Title is required.\")" ++
        "\n            .MaximumLength(40);\n",
       "        RuleFor(x => x.Size)\n            .MaximumLength(500);\n"] ∧
    Renders ⟨⟨0, 0⟩, []⟩ "validation_schema" catalogModel (Schema.ofModel catalogModel).text ∧
    (Schema.ofModel catalogModel).members.map Member.text =
      ["  title: z.string().min(1, \"Title is required\").max(40),\n",
       "  size: z.string().max(500).optional(),\n"] ∧
    Renders ⟨⟨0, 0⟩, []⟩ "create_table" catalogModel (Table.ofModel catalogModel).text ∧
    (Table.ofModel catalogModel).columns.map Column.type =
      ["INT", "NVARCHAR(40)", "NVARCHAR(100)", "DATETIME2", "DATETIME2"] ∧
    ∀ k, textColumn (toString k) = "NVARCHAR(100)" → k < 500 := by
  refine ⟨by decide, renders_entity _ _, by decide, renders_validator _ _,
    by decide, renders_validationSchema _ _, by decide, renders_createTable _ _,
    by decide, fun k hk => ?_⟩
  have hlength : k = 100 := textColumn_inj (hk.trans (by decide))
  omega

end FormScaffold.Rules
