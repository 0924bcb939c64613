import FormScaffold.Proofs.Shipped.ValueRules
import FormScaffold.Shipped.ObjectModel

/-!
# Unit tests

The class of the tests: an object whose required properties are given values, which the validator
is to take, and for each required text a test without it, which the validator is to refuse.
-/

namespace FormScaffold

open Template Shipped

/-! ## The template -/

namespace Shipped

/-- The text that is given to the property of a field. -/
abbrev sampleTextNode : Node :=
  .branch
    [(equals "f.field_type" "email", [.text "user@example.com"]),
     (equals "f.field_type" "url", [.text "https://example.com"])]
    (some [put "f.pascal_name"])

/-- The line that gives the property of a field a value that is the same for all fields. -/
abbrev fixedSampleNodes (value : String) : List Node :=
  [.text "        ", put "f.pascal_name", .text (" = " ++ value ++ ",\n")]

/-- The line that gives the property of a field a value. -/
abbrev assignmentNode : Node :=
  .branch
    [(equals "f.frontend_type" "string",
      [.text "        ", put "f.pascal_name", .text " = \"", sampleTextNode, .text "\",\n"]),
     (either (equals "f.object_type" "int") (equals "f.object_type" "decimal"),
      fixedSampleNodes "1"),
     (equals "f.object_type" "bool", fixedSampleNodes "true"),
     (equals "f.object_type" "DateOnly", fixedSampleNodes "DateOnly.FromDateTime(DateTime.UtcNow)"),
     (equals "f.object_type" "DateTime", fixedSampleNodes "DateTime.UtcNow")]
    none

/-- The test without the text of a property. -/
abbrev absenceNodes : List Node :=
  [.text "\n    [Fact]\n    public void Missing", put "f.pascal_name",
   .text "_FailsValidation()\n    \x7b\n        var dto = ValidDto();\n        dto.",
   put "f.pascal_name",
   .text (" = string.Empty;\n        var result = _validator.TestValidate(dto);\n" ++
    "        result.ShouldHaveValidationErrorFor(x => x."),
   put "f.pascal_name", .text ");\n    \x7d\n"]

/-- The nodes of the class of the tests. -/
def entityTestsNodes : List Node :=
  [.text "// <auto-generated>\n//     Generated by formgen on ", put "generated_at",
   .text ".\n// </auto-generated>\nusing FluentValidation.TestHelper;\nusing ", put "namespace",
   .text ".Models.DTOs;\nusing ", put "namespace",
   .text ".Validation;\nusing Xunit;\n\nnamespace ", put "namespace",
   .text ".Tests.Unit;\n\npublic class ", put "entity_name",
   .text "Tests\n\x7b\n    private readonly ", put "entity_name",
   .text "Validator _validator = new();\n\n    private static Create", put "entity_name",
   .text "Dto ValidDto() => new()\n    \x7b\n",
   eachField [provided (valueOf "f.required") [assignmentNode]],
   .text "    \x7d;\n\n    [Fact]\n    public void Valid", put "entity_name",
   .text ("_PassesValidation()\n    \x7b\n" ++
    "        var result = _validator.TestValidate(ValidDto());\n" ++
    "        result.ShouldNotHaveAnyValidationErrors();\n    \x7d\n"),
   eachField
    [provided (both (valueOf "f.required") (equals "f.object_type" "string")) absenceNodes],
   .text "\x7d\n"]

set_option maxRecDepth 100000 in
theorem reads_entityTests : Node.ofText? entityTestsCs = some entityTestsNodes := by
  unfold entityTestsCs
  dsimp only
  apply reads_of_spells
  · repeat' first | exact Spells.nil | apply Spells.cons
  · unfold entityTestsNodes
    repeat'
      first
      | exact JoinedNodes.nil
      | apply JoinedNodes.text
      | apply JoinedNodes.other
      | apply Joined.append
      | exact Joined.one
  · rfl

end Shipped

/-! ## The class -/

namespace Rules

/-- A value that is given to a property. -/
inductive Sample where
  | quoted (s : String)
  | one
  | yes
  | today
  | now
  deriving DecidableEq

/-- The written form of a value. -/
def Sample.text : Sample → String
  | quoted s => "\"" ++ s ++ "\""
  | one => "1"
  | yes => "true"
  | today => "DateOnly.FromDateTime(DateTime.UtcNow)"
  | now => "DateTime.UtcNow"

/-- The text that is given to the property of a field. -/
def sampleText (f : FieldModel) : String :=
  if f.typeTag == "email" then "user@example.com"
  else if f.typeTag == "url" then "https://example.com"
  else f.pascalName

/-- The value that is given to the property of a required field, if there is one. -/
def Sample.ofField? (f : FieldModel) : Option Sample :=
  if f.types.frontendType == "string" then some (.quoted (sampleText f))
  else if f.types.objectType == "int" || f.types.objectType == "decimal" then some .one
  else if f.types.objectType == "bool" then some .yes
  else if f.types.objectType == "DateOnly" then some .today
  else if f.types.objectType == "DateTime" then some .now
  else none

/-- A property that is given a value. -/
structure Assignment where
  property : String
  value : Sample
  deriving DecidableEq

/-- The line of an assignment. -/
def Assignment.text (a : Assignment) : String :=
  "        " ++ a.property ++ " = " ++ a.value.text ++ ",\n"

/-- The assignment for a field, if there is one. -/
def Assignment.ofField? (f : FieldModel) : Option Assignment :=
  if f.required then (Sample.ofField? f).map (Assignment.mk f.pascalName) else none

/-- The test without the text of a property. -/
def absenceText (property : String) : String :=
  "\n    [Fact]\n    public void Missing" ++ property ++
    "_FailsValidation()\n    \x7b\n        var dto = ValidDto();\n        dto." ++ property ++
    (" = string.Empty;\n        var result = _validator.TestValidate(dto);\n" ++
      "        result.ShouldHaveValidationErrorFor(x => x.") ++ property ++ ");\n    \x7d\n"

/-- The class of the tests. -/
structure UnitTests where
  stamp : String
  projectNamespace : String
  entity : String
  assignments : List Assignment
  absences : List String

/-- The written form of the class. -/
def UnitTests.text (t : UnitTests) : String :=
  "// <auto-generated>\n//     Generated by formgen on " ++ t.stamp ++
    ".\n// </auto-generated>\nusing FluentValidation.TestHelper;\nusing " ++ t.projectNamespace ++
    ".Models.DTOs;\nusing " ++ t.projectNamespace ++ ".Validation;\nusing Xunit;\n\nnamespace " ++
    t.projectNamespace ++ ".Tests.Unit;\n\npublic class " ++ t.entity ++
    "Tests\n\x7b\n    private readonly " ++ t.entity ++
    "Validator _validator = new();\n\n    private static Create" ++ t.entity ++
    "Dto ValidDto() => new()\n    \x7b\n" ++ String.join (t.assignments.map Assignment.text) ++
    "    \x7d;\n\n    [Fact]\n    public void Valid" ++ t.entity ++
    ("_PassesValidation()\n    \x7b\n" ++
      "        var result = _validator.TestValidate(ValidDto());\n" ++
      "        result.ShouldNotHaveAnyValidationErrors();\n    \x7d\n") ++
    String.join (t.absences.map absenceText) ++ "\x7d\n"

/-- The property of a field is a text that has to be given. -/
def needsText (f : FieldModel) : Bool := f.required && f.types.objectType == "string"

/-- The tests of a model. -/
def UnitTests.ofModel (m : Model) : UnitTests :=
  { stamp := m.generatedAt
    projectNamespace := m.projectNamespace
    entity := m.entityName
    assignments := m.fields.filterMap Assignment.ofField?
    absences := (m.fields.filter needsText).map FieldModel.pascalName }

section Rounds

variable {f : FieldModel} {isLast : Bool} {b : Bindings} (h : f.Seen isLast b)
include h

theorem plain_sampleText : sampleTextNode.plain b = sampleText f := by
  rw [sampleTextNode, Node.plain]
  simp only [plainCases, holds_equals h.typeTag]
  unfold sampleText
  cases f.typeTag == "email"
  · cases f.typeTag == "url" <;> simp [h.pascalName]
  · simp

theorem plain_fixedSample (v : Sample) :
    plainNodes (fixedSampleNodes v.text) b = (Assignment.mk f.pascalName v).text := by
  unfold Assignment.text
  simp [h.pascalName, String.append_assoc]

theorem plain_assignment : assignmentNode.plain b =
    (((Sample.ofField? f).map (Assignment.mk f.pascalName)).map Assignment.text).getD "" := by
  have hquoted : plainNodes [.text "        ", put "f.pascal_name", .text " = \"", sampleTextNode,
      .text "\",\n"] b = (Assignment.mk f.pascalName (.quoted (sampleText f))).text := by
    have hafter : sampleTextNode.after b = b := by
      unfold sampleTextNode
      exact Node.after_branch_of_bodies (by simp) (by simp)
    simp only [plainNodes_cons, plainNodes_nil, Node.plain_text, Node.after_text, plain_put,
      after_put, plain_sampleText h, hafter, h.pascalName, valueText]
    unfold Assignment.text Sample.text
    simp only [String.append_assoc, String.append_empty]
    rfl
  rw [assignmentNode, Node.plain]
  simp only [plainCases, plainOptional, holds_either, holds_equals h.frontendType,
    holds_equals h.objectType, hquoted]
  unfold Sample.ofField?
  cases f.types.frontendType == "string"
  · cases f.types.objectType == "int" || f.types.objectType == "decimal"
    · cases f.types.objectType == "bool"
      · cases f.types.objectType == "DateOnly"
        · cases f.types.objectType == "DateTime"
          · rfl
          · exact plain_fixedSample h .now
        · exact plain_fixedSample h .today
      · exact plain_fixedSample h .yes
    · exact plain_fixedSample h .one
  · rfl

theorem plain_assignmentRound : plainNodes [provided (valueOf "f.required") [assignmentNode]] b =
    ((Assignment.ofField? f).map Assignment.text).getD "" := by
  unfold Assignment.ofField?
  cases hrequired : f.required <;> simp [h.required, hrequired, plain_assignment h]

theorem plain_absenceRound :
    plainNodes [provided (both (valueOf "f.required") (equals "f.object_type" "string"))
      absenceNodes] b = if needsText f then absenceText f.pascalName else "" := by
  unfold needsText absenceText
  simp [holds_startsEmpty h, h.pascalName, String.append_assoc]

end Rounds

theorem plain_entityTests {m : Model} {b : Bindings} (h : m.Seen b) :
    plainNodes entityTestsNodes b = (UnitTests.ofModel m).text := by
  have hassignments : (eachField [provided (valueOf "f.required") [assignmentNode]]).plain b =
      String.join ((m.fields.filterMap Assignment.ofField?).map Assignment.text) := by
    rw [plain_eachField h _ fun hf _ => plain_assignmentRound hf, eachText_join]
    exact join_filterMap Assignment.ofField? _ m.fields
  have habsences : (eachField
      [provided (both (valueOf "f.required") (equals "f.object_type" "string"))
        absenceNodes]).plain b =
      String.join (((m.fields.filter needsText).map FieldModel.pascalName).map absenceText) := by
    rw [plain_eachField h _ fun hf _ => plain_absenceRound hf, eachText_join, List.map_map]
    exact join_filter needsText _ m.fields
  unfold UnitTests.text UnitTests.ofModel
  simp [entityTestsNodes, hassignments, habsences, h.generatedAt, h.projectNamespace, h.entityName,
    String.append_assoc]

end Rules

end FormScaffold
