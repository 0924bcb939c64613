import FormScaffold.Proofs.Naming.WordCuts
import FormScaffold.Proofs.Shipped.LengthBounds

/-!
# Names of members

The fields of a form become members of a class and columns of a table, named by the pascal case of
their names, beside three members that every entity has.  A form is accepted if the names of its
fields differ in more than case, which is not all that pascal case takes away.
-/

namespace FormScaffold

open Naming Text Reader Shipped Template Sql Rules

/-- The members that every entity has. -/
def commonMembers : List String := ["Id", "CreatedAt", "UpdatedAt"]

namespace FieldModel

/-- The name of a field is a word of ASCII, which tells it from the common members. -/
structure IsPlain (f : FieldModel) : Prop where
  ascii : isAscii f.name = true
  word : letters f.name.toList = f.name.toList
  own : ∀ member ∈ commonMembers, letterFold f.name ≠ letterFold member

end FieldModel

namespace Rules

/-- The members of an entity in their order. -/
def Entity.members (e : Entity) : List String :=
  "Id" :: e.properties.map Property.name ++ ["CreatedAt", "UpdatedAt"]

/-- The members of the class in which an entity is sent. -/
def TransferObjects.members (t : TransferObjects) : List String :=
  "Id" :: t.slots.map Slot.name ++ ["CreatedAt", "UpdatedAt"]

/-- The members of the class in which a new entity is taken. -/
def TransferObjects.givenMembers (t : TransferObjects) : List String := t.slots.map Slot.name

theorem names_entity (e : Entity) : e.declarations.map Declaration.name = e.members := by
  unfold Entity.declarations Entity.members
  rw [Declaration.map_withCommon, List.map_map]
  rfl

theorem names_taken (t : TransferObjects) : t.taken.map Declaration.name = t.givenMembers :=
  List.map_map

theorem names_sent (t : TransferObjects) : t.sent.map Declaration.name = t.members := by
  unfold TransferObjects.sent
  rw [Declaration.map_withCommon, names_taken]
  rfl

theorem renders_dto (world : Functions.World) (m : Model) :
    Renders world "dto" m (TransferObjects.ofModel m).text :=
  plain_dto (m.seen_given world.now) ▸ renders_of_reads
    (mem_sources_of_entry "object_model/dto.cs.tera" (by decide) rfl)
    reads_dto world m

end Rules

namespace FormField

/-- Two fields with different keys have one pascal name only if their names fold to the same without
their separators, and names of ASCII only if one of them has separators. -/
theorem pascalName_eq {f g : FormField} (hkey : f.key ≠ g.key)
    (h : pascalCase f.trimmedName = pascalCase g.trimmedName) :
    letterFold f.trimmedName = letterFold g.trimmedName ∧
    (isAscii f.trimmedName = true → isAscii g.trimmedName = true →
      letters f.trimmedName.toList ≠ f.trimmedName.toList ∨
      letters g.trimmedName.toList ≠ g.trimmedName.toList) := by
  refine ⟨letterFold_eq h, fun hf hg => ?_⟩
  by_contra hnone
  obtain ⟨hf', hg'⟩ := not_or.mp hnone
  exact hkey (lowercase_eq h hf hg (not_not.mp hf') (not_not.mp hg'))

end FormField

/-- Only a name that folds to what a common member folds to has its pascal name. -/
theorem letterFold_of_member {s member : String} (hmember : member ∈ commonMembers)
    (h : pascalCase s = member) : letterFold s = letterFold member := by
  have hword : ∀ member ∈ commonMembers, letters member.toList = member.toList := by decide
  rw [← upper_lower_pascalCase, h]
  unfold letterFold
  rw [hword member hmember]

/-! ## Forms with plain names -/

section Plain

variable {form : FormDefinition} (haccepted : form.Accepted)
  (hplain : ∀ f ∈ form.fields, (FieldModel.ofField f).IsPlain)
include haccepted hplain

theorem nodup_pascalNames : (form.fields.map fun f => pascalCase f.trimmedName).Nodup := by
  have hkeys := List.pairwise_map.mp haccepted.keys
  refine List.pairwise_map.mpr (hkeys.imp_of_mem fun hf hg hkey heq => ?_)
  obtain ⟨-, hseparator⟩ := FormField.pascalName_eq hkey heq
  rcases hseparator (hplain _ hf).ascii (hplain _ hg).ascii with h | h
  · exact h (hplain _ hf).word
  · exact h (hplain _ hg).word

theorem pascalNames_own {name : String}
    (h : name ∈ form.fields.map fun f => pascalCase f.trimmedName) :
    name ≠ "" ∧ name ∉ commonMembers := by
  obtain ⟨f, hf, rfl⟩ := List.mem_map.mp h
  refine ⟨fun hempty => ?_,
    fun hmember => (hplain f hf).own _ hmember (letterFold_of_member hmember rfl)⟩
  have hletters : f.trimmedName.toList = [] :=
    (hplain f hf).word.symm.trans (pascalCase_eq_empty.mp hempty)
  have hblank := Text.trimmed_eq_empty.mp (String.toList_eq_nil_iff.mp hletters)
  exact Bool.eq_false_iff.mp (haccepted.given f hf).name hblank

/-- The members of an entity, and the columns of its table, are given and differ. -/
theorem nodup_members : ("Id" :: (form.fields.map fun f => pascalCase f.trimmedName) ++
    ["CreatedAt", "UpdatedAt"]).Nodup := by
  have hown : ∀ name ∈ form.fields.map fun f => pascalCase f.trimmedName,
      name ≠ "" ∧ name ∉ commonMembers := fun _ => pascalNames_own haccepted hplain
  refine List.nodup_append.mpr
    ⟨List.nodup_cons.mpr ⟨fun hid => ?_, nodup_pascalNames haccepted hplain⟩, by decide,
      fun name hname member hmember heq => ?_⟩
  · exact (hown _ hid).2 (by decide)
  · rcases List.mem_cons.mp hname with rfl | hname
    · subst heq
      exact absurd hmember (by decide)
    · subst heq
      exact (hown _ hname).2 (List.mem_cons_of_mem _ hmember)

end Plain

/-! ## Accepted forms -/

/-- The names that the entity, the class in which it is sent and its table declare. -/
theorem columnNames_build (form : FormDefinition) (options : GenerationOptions)
    (now : Calendar.Instant) : columnNames (Model.build form options now) =
      "Id" :: (form.fields.map fun f => pascalCase f.trimmedName) ++
        ["CreatedAt", "UpdatedAt"] := by
  unfold columnNames Model.build
  rw [List.map_map]
  rfl

theorem members_entity (m : Model) : (Entity.ofModel m).members = columnNames m := by
  unfold Entity.members Entity.ofModel columnNames
  rw [List.map_map]
  rfl

theorem members_transferObjects (m : Model) :
    (TransferObjects.ofModel m).members = columnNames m := by
  unfold TransferObjects.members TransferObjects.ofModel columnNames
  rw [List.map_map]
  rfl

theorem givenMembers_transferObjects (m : Model) :
    (TransferObjects.ofModel m).givenMembers = m.fields.map FieldModel.pascalName := by
  unfold TransferObjects.givenMembers TransferObjects.ofModel
  rw [List.map_map]
  rfl

/-- Among the fields of every accepted form, a name without a pascal name is made of separators; two
names with one pascal name fold to the same without their separators, and if they are of ASCII, one
of them has separators; and a name whose pascal name is a common member folds to what that
member folds to.  The entity, the class in which it is sent and the table, which are made for all
options at all times, declare these names between the common ones, and the class in which a new
entity is taken declares them alone, as the classes and the table are read back.  If all names are
plain, each is declared once and none is empty. -/
theorem member_names_of_accepted {form : FormDefinition} (haccepted : form.validate = .ok ())
    (options : GenerationOptions) (now : Calendar.Instant) (world : Functions.World) :
    (∀ f ∈ (Model.build form options now).fields,
      (f.pascalName = "" ↔ letters f.name.toList = []) ∧
      ∀ member ∈ commonMembers, f.pascalName = member → letterFold f.name = letterFold member) ∧
    ((Model.build form options now).fields.Pairwise fun f g => f.pascalName = g.pascalName →
      letterFold f.name = letterFold g.name ∧ (isAscii f.name = true → isAscii g.name = true →
        letters f.name.toList ≠ f.name.toList ∨ letters g.name.toList ≠ g.name.toList)) ∧
    ∃ (entity : Entity) (objects : TransferObjects) (table : Table),
      Renders world "entity" (Model.build form options now) entity.text ∧
      Renders world "dto" (Model.build form options now) objects.text ∧
      Renders world "create_table" (Model.build form options now) table.text ∧
      HasClass entity.text entity.name entity.declarations ∧
      entity.declarations.map Declaration.name = entity.members ∧
      HasClass objects.text (objects.entity ++ "Dto") objects.sent ∧
      objects.sent.map Declaration.name = objects.members ∧
      HasClass objects.text ("Create" ++ objects.entity ++ "Dto") objects.taken ∧
      objects.taken.map Declaration.name = objects.givenMembers ∧
      Reads tableReader table.text table ∧
      entity.members = objects.members ∧ entity.members = table.columns.map Column.name ∧
      objects.givenMembers = (Model.build form options now).fields.map FieldModel.pascalName ∧
      entity.members = "Id" :: objects.givenMembers ++ ["CreatedAt", "UpdatedAt"] ∧
      ((∀ f ∈ (Model.build form options now).fields, f.IsPlain) →
        entity.members.Nodup ∧ "" ∉ entity.members) := by
  have haccepted := FormDefinition.validate_eq_ok.mp haccepted
  have hgiven := givenMembers_transferObjects (Model.build form options now)
  refine ⟨fun f hf => ⟨?_, fun member hmember h => ?_⟩, ?_, Entity.ofModel _,
    TransferObjects.ofModel _, Table.ofModel _, renders_entity world _, renders_dto world _,
    renders_createTable world _, hasClass_entity form options now, names_entity _,
    hasClass_sent form options now, names_sent _, hasClass_taken form options now, names_taken _,
    (isLegible_table form options now).reads, ?_, ?_, hgiven, ?_, fun hplain => ?_⟩
  · obtain ⟨field, -, rfl⟩ := List.mem_map.mp hf
    exact pascalCase_eq_empty
  · obtain ⟨field, -, rfl⟩ := List.mem_map.mp hf
    exact letterFold_of_member hmember h
  · exact List.pairwise_map.mpr
      ((List.pairwise_map.mp haccepted.keys).imp fun hkey h => FormField.pascalName_eq hkey h)
  · rw [members_entity, members_transferObjects]
  · rw [members_entity, columnNames_ofModel]
  · rw [members_entity, hgiven, columnNames]
  · have hplain : ∀ f ∈ form.fields, (FieldModel.ofField f).IsPlain :=
      fun f hf => hplain _ (List.mem_map_of_mem hf)
    rw [members_entity, columnNames_build]
    refine ⟨nodup_members haccepted hplain, fun hempty => ?_⟩
    rcases List.mem_append.mp hempty with hempty | hempty
    · rcases List.mem_cons.mp hempty with hempty | hempty
      · exact absurd hempty (by decide)
      · exact (pascalNames_own haccepted hplain hempty).1 rfl
    · exact absurd hempty (by decide)

/-- An optional text. -/
def textField (name : String) : FormField :=
  ⟨name, "text", false, none, none, none, none, none, none, []⟩

/-- A form with two plain names. -/
def plainForm : FormDefinition := ⟨none, none, [textField "fullName", textField "age2"]⟩

theorem plainForm_members : plainForm.validate = .ok () ∧
    (∀ f ∈ (Model.build plainForm (.bare "contact") ⟨0, 0⟩).fields, f.IsPlain) ∧
    ∃ (entity : Entity) (objects : TransferObjects) (table : Table),
      Renders ⟨⟨0, 0⟩, []⟩ "entity" (Model.build plainForm (.bare "contact") ⟨0, 0⟩) entity.text ∧
      Renders ⟨⟨0, 0⟩, []⟩ "dto" (Model.build plainForm (.bare "contact") ⟨0, 0⟩) objects.text ∧
      Renders ⟨⟨0, 0⟩, []⟩ "create_table" (Model.build plainForm (.bare "contact") ⟨0, 0⟩)
        table.text ∧
      entity.members = objects.members ∧ entity.members = table.columns.map Column.name ∧
      entity.members = "Id" :: objects.givenMembers ++ ["CreatedAt", "UpdatedAt"] ∧
      entity.members.Nodup ∧ "" ∉ entity.members := by
  have haccepted : plainForm.validate = .ok () := by decide
  have hplain : ∀ name ∈ ["fullName", "age2"], isAscii name = true ∧
      letters name.toList = name.toList ∧
      ∀ member ∈ commonMembers, letterFold name ≠ letterFold member := by
    decide
  have hfields : ∀ f ∈ (Model.build plainForm (.bare "contact") ⟨0, 0⟩).fields, f.IsPlain := by
    intro f hf
    have hname : f.name ∈ ["fullName", "age2"] := by
      rw [show ["fullName", "age2"] = (Model.build plainForm (.bare "contact") ⟨0, 0⟩).fields.map
        FieldModel.name from by decide]
      exact List.mem_map_of_mem hf
    obtain ⟨hascii, hword, hown⟩ := hplain f.name hname
    exact ⟨hascii, hword, hown⟩
  obtain ⟨-, -, entity, objects, table, hentity, hobjects, htable, -, -, -, -, -, -, -, hsent,
      hcolumns, -, hgiven, hnodup⟩ :=
    member_names_of_accepted haccepted (.bare "contact") ⟨0, 0⟩ ⟨⟨0, 0⟩, []⟩
  exact ⟨haccepted, hfields, entity, objects, table, hentity, hobjects, htable, hsent, hcolumns,
    hgiven, hnodup hfields⟩

/-- A form whose names differ, for the form, in more than case. -/
def clashForm : FormDefinition :=
  ⟨none, none, ["first name", "first_name", "_", "id", "ßx", "SSx"].map textField⟩

/-- The form is accepted, and its entity has members twice, a common member again, and a member
without a name.  The last two names have no separators, but one of them is not of ASCII. -/
theorem clashForm_members : clashForm.validate = .ok () ∧
    (Model.build clashForm (.bare "contact") ⟨0, 0⟩).fields.map FieldModel.pascalName =
      ["FirstName", "FirstName", "", "Id", "SSx", "SSx"] ∧
    Renders ⟨⟨0, 0⟩, []⟩ "entity" (Model.build clashForm (.bare "contact") ⟨0, 0⟩)
      (Entity.ofModel (Model.build clashForm (.bare "contact") ⟨0, 0⟩)).text ∧
    (Entity.ofModel (Model.build clashForm (.bare "contact") ⟨0, 0⟩)).members =
      ["Id", "FirstName", "FirstName", "", "Id", "SSx", "SSx", "CreatedAt", "UpdatedAt"] :=
  ⟨by decide, by decide, renders_entity _ _, by decide⟩

end FormScaffold
