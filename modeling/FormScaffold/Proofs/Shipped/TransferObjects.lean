import FormScaffold.Proofs.Shipped.ValueRules

/-!
# Transfer objects

The classes in which an entity is sent and taken: one with the properties of the fields beside
those that every entity has, and one, for a new entity, with the properties of the fields alone.
A profile maps the entity to the one and the other to the entity.
-/

namespace FormScaffold

open Template Shipped

/-! ## The template -/

namespace Shipped

/-- The line of a slot, with what stands before it. -/
abbrev slotNodes (before : String) : List Node :=
  [.text (before ++ "    public "), put "f.object_type", .text " ", put "f.pascal_name",
   .text " \x7b get; set; \x7d",
   provided (both (valueOf "f.required") (equals "f.object_type" "string"))
    [.text " = string.Empty;"],
   .text "\n"]

/-- The nodes of the two classes. -/
def dtoNodes : List Node :=
  [.text "// <auto-generated>\n//     Generated by formgen on ", put "generated_at",
   .text ".\n// </auto-generated>\nnamespace ", put "namespace",
   .text ".Models.DTOs;\n\npublic class ", put "entity_name",
   .text "Dto\n\x7b\n    public int Id \x7b get; set; \x7d\n", eachField (slotNodes "\n"),
   .text ("\n    public DateTime CreatedAt \x7b get; set; \x7d\n\n" ++
    "    public DateTime? UpdatedAt \x7b get; set; \x7d\n\x7d\n\npublic class Create"),
   put "entity_name", .text "Dto\n\x7b\n",
   eachField (slotNodes "" ++ [provided (lacking "loop.last") [.text "\n"]]), .text "\x7d\n"]

set_option maxRecDepth 100000 in
theorem reads_dto : Node.ofText? dtoCs = some dtoNodes := by
  unfold dtoCs
  apply reads_of_spells
  · repeat' first | exact Spells.nil | apply Spells.cons
  · unfold dtoNodes
    repeat'
      first
      | exact JoinedNodes.nil
      | apply JoinedNodes.text
      | apply JoinedNodes.other
      | apply Joined.append
      | exact Joined.one
  · rfl

/-- What leaves a member of the entity as it is. -/
def ignoreText (member : String) : String :=
  "\n            .ForMember(dest => dest." ++ member ++ ", opt => opt.Ignore())"

/-- The nodes of the profile that maps the classes. -/
def mappingProfileNodes : List Node :=
  [.text "// <auto-generated>\n//     Generated by formgen on ", put "generated_at",
   .text ".\n// </auto-generated>\nusing AutoMapper;\nusing ", put "namespace",
   .text ".Models.DTOs;\nusing ", put "namespace", .text ".Models.Entities;\n\nnamespace ",
   put "namespace", .text ".Mappings;\n\npublic class ", put "entity_name",
   .text "MappingProfile : Profile\n\x7b\n    public ", put "entity_name",
   .text "MappingProfile()\n    \x7b\n        CreateMap<", put "entity_name", .text ", ",
   put "entity_name", .text "Dto>();\n        CreateMap<Create", put "entity_name", .text "Dto, ",
   put "entity_name",
   .text (">()" ++ ignoreText "Id" ++ ignoreText "CreatedAt" ++ ignoreText "UpdatedAt" ++
    ";\n    \x7d\n\x7d\n")]

set_option maxRecDepth 100000 in
theorem reads_mappingProfile : Node.ofText? mappingProfileCs = some mappingProfileNodes := by
  unfold mappingProfileCs
  apply reads_of_spells
  · repeat' first | exact Spells.nil | apply Spells.cons
  · unfold mappingProfileNodes ignoreText
    repeat'
      first
      | exact JoinedNodes.nil
      | apply JoinedNodes.text
      | apply JoinedNodes.other
      | apply Joined.append
      | exact Joined.one
  · rfl

end Shipped

/-! ## The classes -/

namespace Rules

/-- A property without rules. -/
structure Slot where
  type : String
  name : String
  startsEmpty : Bool

/-- The line of a slot. -/
def Slot.text (s : Slot) : String :=
  "    public " ++ s.type ++ " " ++ s.name ++ " \x7b get; set; \x7d" ++
    (if s.startsEmpty then " = string.Empty;" else "") ++ "\n"

/-- The slot of a field. -/
def Slot.ofField (f : FieldModel) : Slot :=
  ⟨f.types.objectType, f.pascalName, f.required && f.types.objectType == "string"⟩

/-- The two classes of an entity that have the same slots. -/
structure TransferObjects where
  stamp : String
  projectNamespace : String
  entity : String
  slots : List Slot

/-- The written form of the classes. -/
def TransferObjects.text (t : TransferObjects) : String :=
  "// <auto-generated>\n//     Generated by formgen on " ++ t.stamp ++
    ".\n// </auto-generated>\nnamespace " ++ t.projectNamespace ++
    ".Models.DTOs;\n\npublic class " ++ t.entity ++
    "Dto\n\x7b\n    public int Id \x7b get; set; \x7d\n" ++
    String.join (t.slots.map fun s => "\n" ++ s.text) ++
    "\n    public DateTime CreatedAt \x7b get; set; \x7d\n\n" ++
    "    public DateTime? UpdatedAt \x7b get; set; \x7d\n\x7d\n\npublic class Create" ++ t.entity ++
    "Dto\n\x7b\n" ++ String.intercalate "\n" (t.slots.map Slot.text) ++ "\x7d\n"

/-- The classes of a model. -/
def TransferObjects.ofModel (m : Model) : TransferObjects :=
  { stamp := m.generatedAt
    projectNamespace := m.projectNamespace
    entity := m.entityName
    slots := m.fields.map Slot.ofField }

theorem plain_slot {f : FieldModel} {isLast : Bool} {b : Bindings} (h : f.Seen isLast b)
    (before : String) : plainNodes (slotNodes before) b = before ++ (Slot.ofField f).text := by
  unfold Slot.text Slot.ofField
  simp [holds_startsEmpty h, h.objectType, h.pascalName, String.append_assoc]

theorem after_slot {b : Bindings} (before : String) : afterNodes (slotNodes before) b = b := by
  simp

theorem plain_dto {m : Model} {b : Bindings} (h : m.Seen b) :
    plainNodes dtoNodes b = (TransferObjects.ofModel m).text := by
  have hsent : (eachField (slotNodes "\n")).plain b =
      String.join ((m.fields.map Slot.ofField).map fun s => "\n" ++ s.text) := by
    rw [plain_eachField h _ fun hf _ => plain_slot hf "\n", eachText_join, List.map_map]
    rfl
  have hmade : (eachField (slotNodes "" ++ [provided (lacking "loop.last") [.text "\n"]])).plain b =
      String.intercalate "\n" ((m.fields.map Slot.ofField).map Slot.text) := by
    rw [plain_eachField h
      (fun f isLast => (Slot.ofField f).text ++ if isLast then "" else "\n") ?_,
      eachText_intercalate, List.map_map]
    · rfl
    intro f isLast inner hf _
    rw [plainNodes_append, plain_slot hf, after_slot, plainNodes_cons, plainNodes_nil,
      plain_provided, holds_lacking, hf.last]
    cases isLast <;> rfl
  simp only [dtoNodes, plainNodes_cons, plainNodes_nil, Node.plain_text, Node.after_text, plain_put,
    after_put, Node.after_loop, hsent, hmade, h.generatedAt, h.projectNamespace, h.entityName,
    valueText]
  unfold TransferObjects.text TransferObjects.ofModel
  simp only [String.append_assoc, String.append_empty]

/-! ## The profile -/

/-- The maps between an entity and its classes. -/
structure MappingProfile where
  stamp : String
  projectNamespace : String
  entity : String
  ignored : List String

/-- The written form of the profile. -/
def MappingProfile.text (p : MappingProfile) : String :=
  "// <auto-generated>\n//     Generated by formgen on " ++ p.stamp ++
    ".\n// </auto-generated>\nusing AutoMapper;\nusing " ++ p.projectNamespace ++
    ".Models.DTOs;\nusing " ++ p.projectNamespace ++ ".Models.Entities;\n\nnamespace " ++
    p.projectNamespace ++ ".Mappings;\n\npublic class " ++ p.entity ++
    "MappingProfile : Profile\n\x7b\n    public " ++ p.entity ++
    "MappingProfile()\n    \x7b\n        CreateMap<" ++ p.entity ++ ", " ++ p.entity ++
    "Dto>();\n        CreateMap<Create" ++ p.entity ++ "Dto, " ++ p.entity ++ ">()" ++
    String.join (p.ignored.map ignoreText) ++ ";\n    \x7d\n\x7d\n"

/-- The profile of a model. -/
def MappingProfile.ofModel (m : Model) : MappingProfile :=
  { stamp := m.generatedAt
    projectNamespace := m.projectNamespace
    entity := m.entityName
    ignored := ["Id", "CreatedAt", "UpdatedAt"] }

theorem plain_mappingProfile {m : Model} {b : Bindings} (h : m.Seen b) :
    plainNodes mappingProfileNodes b = (MappingProfile.ofModel m).text := by
  unfold MappingProfile.text MappingProfile.ofModel
  simp [mappingProfileNodes, h.generatedAt, h.projectNamespace, h.entityName, String.append_assoc]

end Rules

end FormScaffold
