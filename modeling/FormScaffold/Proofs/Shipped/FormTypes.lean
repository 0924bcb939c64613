import FormScaffold.Proofs.Shipped.FieldLoops
import FormScaffold.Proofs.Shipped.ValueRules
import FormScaffold.Shipped.Ui

/-!
# Types of the form's values

The interfaces for an entity and for the values of its form, which have a key for each field, and
the types for the values of the fields with choices.
-/

namespace FormScaffold

open Template Json Shipped

/-! ## The template -/

namespace Shipped

/-- The line of a key, with the nodes for its type. -/
abbrev keyNodes (type : List Node) : List Node :=
  [.text "  ", put "f.camel_name", provided (lacking "f.required") [.text "?"], .text ": "] ++
    type ++ [.text ";\n"]

/-- The type of an entity's key. -/
abbrev storedTypeNode : Node :=
  .branch [(equals "f.frontend_type" "File", [.text "string"])] (some [put "f.frontend_type"])

/-- The value of a choice. -/
abbrev choiceNodes : List Node :=
  [.text " \"", put "o.value", .text "\"", provided (lacking "loop.last") [.text " |"]]

/-- The type for the values of a field with choices. -/
abbrev choicesNodes : List Node :=
  [.text "\nexport type ", put "entity_name", put "f.pascal_name", .text "Option =",
   .loop none "o" (valueOf "f.options") choiceNodes none, .text ";\n"]

/-- The nodes of the types. -/
def typesNodes : List Node :=
  [.text "// Generated by formgen on ", put "generated_at", .text "\n\nexport interface ",
   put "entity_name", .text " \x7b\n  id: number;\n", eachField (keyNodes [storedTypeNode]),
   .text "  createdAt: Date;\n  updatedAt?: Date;\n\x7d\n\nexport interface ", put "entity_name",
   .text "FormValues \x7b\n", eachField (keyNodes [put "f.frontend_type"]), .text "\x7d\n",
   eachField [provided (someOf "f.options") choicesNodes], .text "\n"]

set_option maxRecDepth 100000 in
theorem reads_types : Node.ofText? typesTs = some typesNodes := by
  unfold typesTs
  apply reads_of_spells
  · repeat' first | exact Spells.nil | apply Spells.cons
  · unfold typesNodes
    repeat'
      first
      | exact JoinedNodes.nil
      | apply JoinedNodes.text
      | apply JoinedNodes.other
      | apply Joined.append
      | exact Joined.one
  · rfl

end Shipped

/-! ## The interfaces -/

namespace Rules

/-- A key of an interface. -/
structure InterfaceKey where
  name : String
  isOptional : Bool
  type : String
  deriving DecidableEq

/-- The line of a key. -/
def InterfaceKey.text (k : InterfaceKey) : String :=
  "  " ++ k.name ++ (if k.isOptional then "?" else "") ++ ": " ++ k.type ++ ";\n"

/-- The key for the value of a field. -/
def InterfaceKey.ofField (f : FieldModel) : InterfaceKey :=
  ⟨f.camelName, !f.required, f.types.frontendType⟩

/-- The key for the value of a field as it is stored: of a file, its name. -/
def InterfaceKey.stored (f : FieldModel) : InterfaceKey :=
  ⟨f.camelName, !f.required,
    if f.types.frontendType == "File" then "string" else f.types.frontendType⟩

/-- The values that a field takes. -/
structure ChoiceType where
  property : String
  values : List String
  deriving DecidableEq

/-- The declaration of the values, for an entity. -/
def ChoiceType.text (entity : String) (c : ChoiceType) : String :=
  "\nexport type " ++ entity ++ c.property ++ "Option =" ++
    eachText (fun value isLast => " \"" ++ value ++ "\"" ++ if isLast then "" else " |") c.values ++
    ";\n"

/-- The values of a field with choices. -/
def ChoiceType.ofField? (f : FieldModel) : Option ChoiceType :=
  if f.choices.isEmpty then none else some ⟨f.pascalName, f.choices.map FieldChoice.value⟩

/-- The types for a form. -/
structure FormTypes where
  stamp : String
  entity : String
  stored : List InterfaceKey
  values : List InterfaceKey
  choices : List ChoiceType

/-- The written form of the types. -/
def FormTypes.text (t : FormTypes) : String :=
  "// Generated by formgen on " ++ t.stamp ++ "\n\nexport interface " ++ t.entity ++
    " \x7b\n  id: number;\n" ++ String.join (t.stored.map InterfaceKey.text) ++
    "  createdAt: Date;\n  updatedAt?: Date;\n\x7d\n\nexport interface " ++ t.entity ++
    "FormValues \x7b\n" ++ String.join (t.values.map InterfaceKey.text) ++ "\x7d\n" ++
    String.join (t.choices.map (ChoiceType.text t.entity)) ++ "\n"

/-- The types of a model. -/
def FormTypes.ofModel (m : Model) : FormTypes :=
  { stamp := m.generatedAt
    entity := m.entityName
    stored := m.fields.map InterfaceKey.stored
    values := m.fields.map InterfaceKey.ofField
    choices := m.fields.filterMap ChoiceType.ofField? }

theorem plain_key {f : FieldModel} {isLast : Bool} {b : Bindings} (h : f.Seen isLast b)
    {type : Node} {name : String} (htype : type.plain b = name) (hafter : type.after b = b) :
    plainNodes (keyNodes [type]) b = (InterfaceKey.mk f.camelName (!f.required) name).text := by
  unfold keyNodes
  unfold InterfaceKey.text
  simp [h.required, h.camelName, htype, hafter, String.append_assoc]

theorem plain_storedType {f : FieldModel} {isLast : Bool} {b : Bindings} (h : f.Seen isLast b) :
    storedTypeNode.plain b =
      if f.types.frontendType == "File" then "string" else f.types.frontendType := by
  rw [Node.plain_branch, holds_equals h.frontendType]
  simp [h.frontendType]

theorem after_storedType (b : Bindings) : storedTypeNode.after b = b := by
  exact Node.after_branch_of_bodies (by simp) (by simp)

theorem plain_choices (b : Bindings) (n : Nat) (choices : List FieldChoice) :
    plainRounds (plainNodes choiceNodes) none "o" b n
      (choices.map fun c => ("", c.toJson.normalized)) =
      eachText (fun value isLast => " \"" ++ value ++ "\"" ++ if isLast then "" else " |")
        (choices.map FieldChoice.value) := by
  induction choices generalizing n with
  | nil => rfl
  | cons c rest ih =>
      rw [List.map_cons, plainRounds, ih, List.map_cons, eachText, List.isEmpty_map,
        List.isEmpty_map]
      generalize hinner :
        roundBindings none "o" n rest.isEmpty ("", c.toJson.normalized) ++ b = inner
      have hmember : c.toJson.normalized.member? "value" = some (.string c.value) :=
        Value.get?_normalizedMembers (v := .string c.value) (by simp) rfl
      have hvalue : inner.get "o.value" = .string c.value := by
        rw [← hinner]
        have hplain : isPlainName "o" = true := by decide
        exact Context.get_round_member hplain
          (show Value.member? "value" ("", _).2 = _ from hmember)
      have hlast : inner.get "loop.last" = .bool rest.isEmpty := by rw [← hinner]; rfl
      cases hrest : rest.isEmpty <;> simp [hvalue, hlast, hrest, String.append_assoc]

theorem plain_choiceType {m : Model} {f : FieldModel} {isLast : Bool} {b : Bindings}
    (h : f.Seen isLast b) (hm : m.Seen b) :
    plainNodes [provided (someOf "f.options") choicesNodes] b =
      ((ChoiceType.ofField? f).map (ChoiceType.text m.entityName)).getD "" := by
  have hloop : (Node.loop none "o" (valueOf "f.options") choiceNodes none).plain b =
      eachText (fun value isLast => " \"" ++ value ++ "\"" ++ if isLast then "" else " |")
        (f.choices.map FieldChoice.value) := by
    have hitems : plainItems (.array (f.choices.map fun c => c.toJson.normalized)) =
        f.choices.map fun c => ("", c.toJson.normalized) := by
      simp [plainItems, Function.comp_def]
    rw [Node.plain, plain_valueOf, h.choices, hitems]
    exact plain_choices b 0 f.choices
  rw [plainNodes_cons, plainNodes_nil, plain_provided, holds_someOf_array h.choices,
    List.isEmpty_map]
  unfold ChoiceType.ofField?
  cases f.choices.isEmpty
  · unfold ChoiceType.text
    simp [hloop, hm.entityName, h.pascalName, String.append_assoc]
  · rfl

theorem plain_types {m : Model} {b : Bindings} (h : m.Seen b) :
    plainNodes typesNodes b = (FormTypes.ofModel m).text := by
  have hstored : (eachField (keyNodes [storedTypeNode])).plain b =
      String.join ((m.fields.map InterfaceKey.stored).map InterfaceKey.text) := by
    rw [plain_eachField h _ fun hf _ => plain_key hf (plain_storedType hf) (after_storedType _),
      eachText_join, List.map_map]
    rfl
  have hvalues : (eachField (keyNodes [put "f.frontend_type"])).plain b =
      String.join ((m.fields.map InterfaceKey.ofField).map InterfaceKey.text) := by
    rw [plain_eachField h _ fun hf _ =>
      plain_key hf ((plain_put _ _).trans (congrArg valueText hf.frontendType)) (after_put _ _),
      eachText_join, List.map_map]
    rfl
  have hchoices : (eachField [provided (someOf "f.options") choicesNodes]).plain b =
      String.join
        ((m.fields.filterMap ChoiceType.ofField?).map (ChoiceType.text m.entityName)) := by
    rw [plain_eachField h _ fun hf hm => plain_choiceType hf hm, eachText_join]
    exact join_filterMap ChoiceType.ofField? _ m.fields
  simp only [typesNodes, plainNodes_cons, plainNodes_nil, Node.plain_text, Node.after_text,
    plain_put, after_put, after_eachField, hstored, hvalues, hchoices, h.generatedAt, h.entityName,
    valueText]
  unfold FormTypes.text FormTypes.ofModel
  simp only [String.append_assoc, String.append_empty]

end Rules

end FormScaffold
