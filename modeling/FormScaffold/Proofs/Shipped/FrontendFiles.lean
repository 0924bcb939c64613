import FormScaffold.Proofs.Model.Names
import FormScaffold.Proofs.Shipped.FrontendReading
import FormScaffold.Proofs.Shipped.LengthBounds

/-!
# Files of the frontend

The values of a form have an interface and a schema.  If both are read back, they have the same
keys.  A key may be missing in the one if it may be in the other, and the schema starts with what
takes values of the key's type; only texts are checked further.  A required key that ends with the
mark of those that may be missing is read as one of these in the interface alone.
-/

namespace FormScaffold

/-- A field is told by its lines in the files of the frontend: the name of one that is required does
not end with the mark of those that may be missing, and no label that stands in a message has a
quote. -/
structure FieldModel.IsLegible (f : FieldModel) : Prop where
  unmarked : f.required = true → f.camelName.toList.getLast? ≠ some '?'
  unquoted : f.types.frontendType = "string" →
    (Rules.formatOf f.typeTag).isSome = true ∨ f.required = true → '"' ∉ f.label.toList

namespace Rules

open Template Shipped

/-! ## Fields -/

section Field

variable {f : FieldModel} (hname : ' ' ∉ f.camelName.toList)
  (htype : f.types.frontendType ∈ ["number", "boolean", "Date", "File", "string"])
  (h : f.IsLegible)
include hname htype h

theorem isLegible_key : (InterfaceKey.ofField f).IsLegible where
  name := hname
  unmarked hrequired := h.unmarked (by simpa [InterfaceKey.ofField] using hrequired)
  type := by
    have htypes : ∀ type ∈ ["number", "boolean", "Date", "File", "string"],
        ';' ∉ String.toList type := by decide
    exact htypes _ htype

theorem isLegible_stored : (InterfaceKey.stored f).IsLegible where
  name := hname
  unmarked hrequired := h.unmarked (by simpa [InterfaceKey.stored] using hrequired)
  type := by
    have htypes : ∀ type ∈ ["number", "boolean", "Date", "File", "string"],
        ';' ∉ (if type == "File" then "string" else type).toList := by decide
    exact htypes _ htype

theorem isLegible_member : (Member.ofField f).IsLegible := by
  have hbases : ∀ type ∈ ["number", "boolean", "Date", "File", "string"],
      schemaBase type ∈ bases ∧ (type = "string" ↔ schemaBase type = "z.string()") := by
    decide
  obtain ⟨hbase, hstring⟩ := hbases _ htype
  refine ⟨hname, hbase, ?_, fun checks hchecks => ?_⟩
  · rw [Member.ofField, ← hstring]
    by_cases htext : f.types.frontendType = "string" <;> simp [htext]
  · obtain ⟨htext, hchecks⟩ := Option.ite_none_right_eq_some.mp hchecks
    cases hchecks
    exact h.unquoted (eq_of_beq htext)

end Field

/-- Nothing of a field's member is lost to who reads it, but a label that stands in no message. -/
theorem told_ofField (f : FieldModel) : (TextChecks.ofField f).told =
    { TextChecks.ofField f with
      label := if f.required || (formatOf f.typeTag).isSome then f.label else "" } := by
  unfold TextChecks.told TextChecks.ofParts TextChecks.ofField
  cases f.required <;> cases formatOf f.typeTag <;> cases positive f.minLength <;> rfl

/-! ## The interface and the schema -/

/-- A key of the interface and a member of the schema are of the same value. -/
structure Agrees (key : InterfaceKey) (member : Member) : Prop where
  name : key.name = member.name
  optional : key.isOptional = member.isOptional
  base : (key.type, member.base) ∈
    [("number", "z.number()"), ("boolean", "z.boolean()"), ("Date", "z.coerce.date()"),
     ("File", "z.instanceof(File)"), ("string", "z.string()")]
  checks : member.checks.isSome = true → key.type = "string"

theorem agrees_ofField {f : FieldModel}
    (htype : f.types.frontendType ∈ ["number", "boolean", "Date", "File", "string"]) :
    Agrees (.ofField f) (Member.ofField f).told where
  name := rfl
  optional := rfl
  base := by
    have hbase : ∀ type ∈ ["number", "boolean", "Date", "File", "string"],
        (type, schemaBase type) ∈
          [("number", "z.number()"), ("boolean", "z.boolean()"), ("Date", "z.coerce.date()"),
           ("File", "z.instanceof(File)"), ("string", "z.string()")] := by
      decide
    exact hbase _ htype
  checks := by
    intro hsome
    by_cases htext : f.types.frontendType = "string"
    · exact htext
    · unfold Member.told Member.ofField at hsome
      rw [if_neg (by simpa using htext)] at hsome
      cases hsome

theorem renders_types (world : Functions.World) (m : Model) :
    Renders world "ui_types" m (FormTypes.ofModel m).text :=
  plain_types (m.seen_given world.now) ▸ renders_of_reads
    (mem_sources_of_entry "ui/types.ts.tera" (by decide) rfl) reads_types world m

/-- With the model of every form with legible fields, under all options at all times, the two
templates make files that are read as interfaces and as an object.  The interface for the values of
the form has the keys of the fields, the object has the same keys in the same order, and what the
two say of each key agrees. -/
theorem types_agree_schema (form : FormDefinition) (options : GenerationOptions)
    (now : Calendar.Instant) (world : Functions.World)
    (hlegible : ∀ f ∈ (Model.build form options now).fields, f.IsLegible) :
    let m := Model.build form options now
    ∃ types schema stored keys members,
      Renders world "ui_types" m types ∧ Renders world "validation_schema" m schema ∧
      interfacesOf types = some [(m.entityName, stored), (m.entityName ++ "FormValues", keys)] ∧
      schemaOf schema = some (m.entityNameCamel ++ "Schema", members) ∧
      keys = m.fields.map InterfaceKey.ofField ∧
      members = m.fields.map (fun f => (Member.ofField f).told) ∧
      members.map Member.name = keys.map InterfaceKey.name ∧ List.Forall₂ Agrees keys members := by
  intro m
  have hnames : ∀ f ∈ m.fields, ' ' ∉ f.camelName.toList :=
    fun _ hf => Model.blank_not_mem_camelName hf
  have hfrontend : ∀ f ∈ m.fields,
      f.types.frontendType ∈ ["number", "boolean", "Date", "File", "string"] :=
    fun _ hf => Model.frontendType_mem hf
  have hkeys : ∀ k ∈ (FormTypes.ofModel m).values, k.IsLegible :=
    List.forall_mem_map.mpr fun f hf =>
      isLegible_key (hnames f hf) (hfrontend f hf) (hlegible f hf)
  have hstored : ∀ k ∈ (FormTypes.ofModel m).stored, k.IsLegible :=
    List.forall_mem_map.mpr fun f hf =>
      isLegible_stored (hnames f hf) (hfrontend f hf) (hlegible f hf)
  have hmembers : ∀ c ∈ (Schema.ofModel m).members, c.IsLegible :=
    List.forall_mem_map.mpr fun f hf =>
      isLegible_member (hnames f hf) (hfrontend f hf) (hlegible f hf)
  have hstamp := Model.break_not_mem_generatedAt form options now
  have hentity := Model.marks_not_mem_entityName form options now ' ' (by decide)
  have hcamel := Model.marks_not_mem_entityNameCamel form options now ' ' (by decide)
  refine ⟨_, _, _, _, _, renders_types world m, renders_validationSchema world m,
    interfacesOf_text hstamp hentity hstored hkeys, schemaOf_text hstamp hcamel hmembers, rfl,
    List.map_map, ?_, ?_⟩
  · unfold Schema.ofModel FormTypes.ofModel
    simp only [List.map_map]
    rfl
  · unfold Schema.ofModel FormTypes.ofModel
    rw [List.map_map, List.forall₂_map_left_iff, List.forall₂_map_right_iff]
    exact List.forall₂_same.mpr fun f hf => agrees_ofField (hfrontend f hf)

/-- A form with a required text and an optional file whose name ends with the mark. -/
def attachmentForm : FormDefinition :=
  ⟨none, none, [⟨"e-mail", "email", true, none, none, none, some 40, none, none, []⟩,
    ⟨"scan?", "file", false, none, none, none, none, none, none, []⟩]⟩

theorem attachmentForm_agrees :
    (∀ f ∈ (Model.build attachmentForm (.bare "receipt") ⟨0, 0⟩).fields, f.IsLegible) ∧
    ∃ types schema stored keys members,
      Renders ⟨⟨0, 0⟩, []⟩ "ui_types" (Model.build attachmentForm (.bare "receipt") ⟨0, 0⟩) types ∧
      Renders ⟨⟨0, 0⟩, []⟩ "validation_schema"
        (Model.build attachmentForm (.bare "receipt") ⟨0, 0⟩) schema ∧
      interfacesOf types = some [("Receipt", stored), ("ReceiptFormValues", keys)] ∧
      schemaOf schema = some ("receiptSchema", members) ∧
      keys = [⟨"eMail", false, "string"⟩, ⟨"scan?", true, "File"⟩] ∧
      List.Forall₂ Agrees keys members := by
  have hlegible : ∀ f ∈ (Model.build attachmentForm (.bare "receipt") ⟨0, 0⟩).fields,
      f.IsLegible := by
    have hfields : ∀ f ∈ (Model.build attachmentForm (.bare "receipt") ⟨0, 0⟩).fields,
        (f.required = true → f.camelName.toList.getLast? ≠ some '?') ∧
          (f.types.frontendType = "string" →
            (formatOf f.typeTag).isSome = true ∨ f.required = true → '"' ∉ f.label.toList) := by
      decide
    exact fun f hf => ⟨(hfields f hf).1, (hfields f hf).2⟩
  obtain ⟨types, schema, stored, keys, members, htypes, hschema, hinterfaces, hobject, hkeys, -, -,
      hall⟩ := types_agree_schema attachmentForm (.bare "receipt") ⟨0, 0⟩ ⟨⟨0, 0⟩, []⟩ hlegible
  exact ⟨hlegible, types, schema, stored, keys, members, htypes, hschema, hinterfaces, hobject,
    hkeys.trans (by decide), hall⟩

/-- A form with a required field whose name ends with the mark of those that may be missing. -/
def activeForm : FormDefinition :=
  ⟨none, none, [⟨"active?", "checkbox", true, none, none, none, none, none, none, []⟩]⟩

/-- Options that ask for the files of the frontend. -/
def frontendOptions : GenerationOptions :=
  { GenerationOptions.bare "receipt" with uiComponents := true }

/-- The form and the options are accepted.  The interface has a key that may be missing, and the
schema one that may not. -/
theorem activeForm_disagrees : activeForm.validate = .ok () ∧ frontendOptions.validate = .ok () ∧
    ∃ types schema,
      Renders ⟨⟨0, 0⟩, []⟩ "ui_types" (Model.build activeForm frontendOptions ⟨0, 0⟩) types ∧
      Renders ⟨⟨0, 0⟩, []⟩ "validation_schema" (Model.build activeForm frontendOptions ⟨0, 0⟩)
        schema ∧
      (interfacesOf types).bind (List.lookup "ReceiptFormValues") =
        some [⟨"active", true, "boolean"⟩] ∧
      schemaOf schema = some ("receiptSchema", [⟨"active?", "z.boolean()", none, false⟩]) :=
  ⟨by decide, by decide, _, _, renders_types _ _, renders_validationSchema _ _,
    by decide +kernel, by decide +kernel⟩

end Rules

end FormScaffold
