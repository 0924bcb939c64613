import FormScaffold.Proofs.Shipped.ClassReading
import FormScaffold.Proofs.Shipped.SampleValues

/-!
# Classes that agree

The entity and the two classes in which it is sent and taken declare the same properties for the
fields, and the first two of them three more.  The profile leaves just these three as they are, and
what the validator and the tests refer to are properties of the class that is taken.
-/

namespace FormScaffold.Rules

open Template Shipped Text Reader

/-- What a field is declared as. -/
def fieldSignature (f : FieldModel) : String × String × String :=
  (f.types.objectType, f.pascalName,
    if f.required && f.types.objectType == "string" then " = string.Empty;" else "")

/-! ## Agreement -/

section Agreement

variable (world : Functions.World) (m : Model)

theorem renders_mappingProfile :
    Renders world "mapping_profile" m (MappingProfile.ofModel m).text :=
  plain_mappingProfile (m.seen_given world.now) ▸ renders_of_reads
    (mem_sources_of_entry "object_model/mapping_profile.cs.tera" (by decide) rfl)
    reads_mappingProfile world m

theorem signatures_entity :
    ((Entity.ofModel m).properties.map Declaration.ofProperty).map Declaration.signature =
      m.fields.map fieldSignature := by
  unfold Entity.ofModel
  simp only [List.map_map]
  rfl

theorem signatures_taken :
    (TransferObjects.ofModel m).taken.map Declaration.signature = m.fields.map fieldSignature := by
  unfold TransferObjects.taken TransferObjects.ofModel
  simp only [List.map_map]
  rfl

theorem declared_taken : (TransferObjects.ofModel m).taken.map Declaration.name =
    m.fields.map FieldModel.pascalName :=
  (names_taken _).trans (givenMembers_transferObjects m)

theorem declared_entity : (Entity.ofModel m).declarations.map Declaration.name =
    "Id" :: m.fields.map FieldModel.pascalName ++ ["CreatedAt", "UpdatedAt"] :=
  (names_entity _).trans (members_entity m)

/-- Of the members around given ones, all that are not given are the common ones if none of these is
given, and only then. -/
theorem lacking_eq_common_iff (names : List String) :
    ("Id" :: names ++ ["CreatedAt", "UpdatedAt"]).filter (fun name => !names.contains name) =
      commonMembers ↔ ∀ name ∈ names, name ∉ commonMembers := by
  have hnames : names.filter (fun name => !names.contains name) = [] :=
    List.filter_eq_nil_iff.mpr fun name hname => by simpa using hname
  -- the given names drop out, and the common ones are left to ask about
  have hcommon : ("Id" :: names ++ ["CreatedAt", "UpdatedAt"]).filter
      (fun name => !names.contains name) =
      commonMembers.filter fun name => !names.contains name := by
    rw [← List.singleton_append, List.filter_append, List.filter_append, hnames, List.append_nil,
      ← List.filter_append]
    rfl
  rw [hcommon, List.filter_eq_self]
  constructor
  · intro h name hname hmember
    have hout := h name hmember
    rw [List.contains_iff_mem.mpr hname] at hout
    cases hout
  · intro h name hmember
    rw [Bool.not_eq_true', ← Bool.not_eq_true, List.contains_iff_mem]
    exact fun hname => h name hname hmember

end Agreement

/-- With the model of every form under all options at all times, the templates make the written
forms of the classes.  The entity and the two classes in which it is sent and taken are read back as
what they declare: the fields alike, and in the first two of them three properties more.  The
profile leaves just these as they are.  They are what the entity has and the class that is taken
lacks unless a field has the name of one of them.  What has rules in the validator, which are read
back if no name has the bracket behind names and no label in a message has a quote, and what the
tests assign and select, are properties of the class that is taken. -/
theorem transfer_objects_declare_entity_fields (form : FormDefinition) (options : GenerationOptions)
    (now : Calendar.Instant) (world : Functions.World) :
    let m := Model.build form options now
    let entity := Entity.ofModel m
    let objects := TransferObjects.ofModel m
    let profile := MappingProfile.ofModel m
    let validator := Validator.ofModel m
    let tests := UnitTests.ofModel m
    Renders world "entity" m (entity.head ++ classText m.entityName entity.declarations) ∧
    Renders world "dto" m (objects.head ++ classText (m.entityName ++ "Dto") objects.sent ++ "\n" ++
      classText ("Create" ++ m.entityName ++ "Dto") objects.taken) ∧
    Renders world "mapping_profile" m profile.text ∧
    Renders world "validator" m validator.text ∧ Renders world "entity_tests" m tests.text ∧
    Reads classReader (classText m.entityName entity.declarations)
      (m.entityName, entity.declarations) ∧
    Reads classReader (classText (m.entityName ++ "Dto") objects.sent)
      (m.entityName ++ "Dto", objects.sent) ∧
    Reads classReader (classText ("Create" ++ m.entityName ++ "Dto") objects.taken)
      ("Create" ++ m.entityName ++ "Dto", objects.taken) ∧
    ((∀ f ∈ m.fields, IsRuleLegible f) → HasRules validator.text validator.rules) ∧
    objects.taken.map Declaration.signature = m.fields.map fieldSignature ∧
    entity.declarations.map Declaration.signature =
      ("int", "Id", "") :: m.fields.map fieldSignature ++
        [("DateTime", "CreatedAt", " = DateTime.UtcNow;"), ("DateTime?", "UpdatedAt", "")] ∧
    objects.sent.map Declaration.signature =
      ("int", "Id", "") :: m.fields.map fieldSignature ++
        [("DateTime", "CreatedAt", ""), ("DateTime?", "UpdatedAt", "")] ∧
    profile.ignored = ["Id", "CreatedAt", "UpdatedAt"] ∧
    ((entity.declarations.map Declaration.name).filter
        (fun name => !(objects.taken.map Declaration.name).contains name) = profile.ignored ↔
      ∀ f ∈ m.fields, f.pascalName ∉ ["Id", "CreatedAt", "UpdatedAt"]) ∧
    (∀ rule ∈ validator.rules, rule.property ∈ objects.taken.map Declaration.name) ∧
    (∀ assignment ∈ tests.assignments,
      assignment.property ∈ objects.taken.map Declaration.name) ∧
    ∀ property ∈ tests.absences, property ∈ objects.taken.map Declaration.name := by
  intro m entity objects profile validator tests
  refine ⟨?_, ?_, renders_mappingProfile world m, renders_validator world m,
    renders_entityTests world m, reads_entityClass form options now,
    reads_sentClass form options now, reads_takenClass form options now, hasRules_validator,
    signatures_taken m, ?_, ?_, rfl, ?_, fun rule hrule => ?_, fun assignment hassignment => ?_,
    fun property hproperty => ?_⟩
  · exact text_entity entity ▸ renders_entity world m
  · exact text_transferObjects objects ▸ renders_dto world m
  · refine (Declaration.map_withCommon _ _ _ _).trans ?_
    rw [signatures_entity]
    rfl
  · refine (Declaration.map_withCommon _ _ _ _).trans ?_
    rw [signatures_taken]
    rfl
  · rw [declared_entity, declared_taken]
    exact (lacking_eq_common_iff _).trans List.forall_mem_map
  · obtain ⟨f, hf, rfl⟩ := List.mem_map.mp hrule
    rw [declared_taken]
    exact List.mem_map_of_mem (List.mem_filter.mp hf).1
  · obtain ⟨f, hf, hassigned⟩ := List.mem_filterMap.mp hassignment
    obtain ⟨-, hmade⟩ := Option.ite_none_right_eq_some.mp hassigned
    obtain ⟨v, -, rfl⟩ := Option.map_eq_some_iff.mp hmade
    rw [declared_taken]
    exact List.mem_map_of_mem hf
  · obtain ⟨f, hf, rfl⟩ := List.mem_map.mp hproperty
    rw [declared_taken]
    exact List.mem_map_of_mem (List.mem_filter.mp hf).1

/-- A form with a field that has the name of a common member. -/
def identityForm : FormDefinition := ⟨none, none, [textField "id"]⟩

/-- Options that ask for the classes. -/
def classOptions : GenerationOptions :=
  { GenerationOptions.bare "contact" with objectModel := true }

/-- The form and the options are accepted.  The profile leaves a member as it is that both the
entity and the class that is taken have. -/
theorem identityForm_ignored : identityForm.validate = .ok () ∧ classOptions.validate = .ok () ∧
    (Entity.ofModel (Model.build identityForm classOptions ⟨0, 0⟩)).declarations.map
      Declaration.name = ["Id", "Id", "CreatedAt", "UpdatedAt"] ∧
    (TransferObjects.ofModel (Model.build identityForm classOptions ⟨0, 0⟩)).taken.map
      Declaration.name = ["Id"] ∧
    Renders ⟨⟨0, 0⟩, []⟩ "mapping_profile" (Model.build identityForm classOptions ⟨0, 0⟩)
      (MappingProfile.ofModel (Model.build identityForm classOptions ⟨0, 0⟩)).text ∧
    "Id" ∈ (MappingProfile.ofModel (Model.build identityForm classOptions ⟨0, 0⟩)).ignored :=
  ⟨by decide, by decide, by decide, by decide, renders_mappingProfile _ _, by decide⟩

end FormScaffold.Rules
