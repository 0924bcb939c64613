import FormScaffold.Proofs.Shipped.FieldLoops
import FormScaffold.Proofs.Shipped.Spelling
import FormScaffold.Shipped.ObjectModel
import FormScaffold.Shipped.Ui

/-!
# The nodes of the templates with rules for values

What the templates of the entity, of its validator and of the schema of a form are read as.
-/

namespace FormScaffold.Shipped

open Template

/-! ## Conditions -/

/-- A text that is written out. -/
abbrev literal (s : String) : Expr := .mk (.text s) false []

/-- Both expressions hold. -/
abbrev both (l r : Expr) : Expr := .mk (.logic .conj l r) false []

/-- One of the expressions holds. -/
abbrev either (l r : Expr) : Expr := .mk (.logic .disj l r) false []

/-- A path stands for a text. -/
abbrev equals (path s : String) : Expr := .mk (.logic .equal (valueOf path) (literal s)) false []

/-- A path stands for something else than a text. -/
abbrev differs (path s : String) : Expr :=
  .mk (.logic .notEqual (valueOf path) (literal s)) false []

/-! ## The entity -/

/-- The property of a field. -/
abbrev propertyNodes : List Node :=
  [.text "\n", provided (valueOf "f.required") [.text "    [Required]\n"],
   provided (both (both (valueOf "f.max_length") (equals "f.object_type" "string"))
      (differs "f.field_type" "textarea"))
    [.text "    [MaxLength(", put "f.max_length", .text ")]\n"],
   .text "    public ", put "f.object_type", .text " ", put "f.pascal_name",
   .text " \x7b get; set; \x7d",
   provided (both (valueOf "f.required") (equals "f.object_type" "string"))
    [.text " = string.Empty;"],
   .text "\n"]

/-- The line of an import. -/
abbrev importNodes : List Node := [.text "using ", put "ns", .text ";\n"]

/-- The nodes of the class of the entity. -/
def entityNodes : List Node :=
  [.text "// <auto-generated>\n//     Generated by formgen on ", put "generated_at",
   provided (valueOf "author") [.text " for ", put "author"],
   .text ".\n// </auto-generated>\nusing System;\nusing System.ComponentModel.DataAnnotations;\n",
   .loop (some "key") "ns" (valueOf "additional_imports") importNodes none,
   .text "\nnamespace ", put "namespace", .text ".Models.Entities;\n\n",
   provided (valueOf "description")
    [.text "/// <summary>\n/// ", put "description", .text "\n/// </summary>\n"],
   .text "public class ", put "entity_name",
   .text "\n\x7b\n    [Key]\n    public int Id \x7b get; set; \x7d\n", eachField propertyNodes,
   .text ("\n    public DateTime CreatedAt \x7b get; set; \x7d = DateTime.UtcNow;\n\n" ++
    "    public DateTime? UpdatedAt \x7b get; set; \x7d\n\x7d\n")]

/-! ## The validator -/

/-- The rules of a field. -/
abbrev ruleNodes : List Node :=
  [.text "        RuleFor(x => x.", put "f.pascal_name", .text ")",
   provided (valueOf "f.required")
    [.text "\n            .NotEmpty().WithMessage(\"", put "f.label", .text " is required.\")"],
   provided (valueOf "bounded")
    [.text "\n            .MaximumLength(", put "f.max_length", .text ")"],
   provided (both (equals "f.object_type" "string") (valueOf "f.min_length"))
    [.text "\n            .MinimumLength(", put "f.min_length", .text ")"],
   provided (equals "f.field_type" "email") [.text "\n            .EmailAddress()"],
   provided (valueOf "f.pattern")
    [.text "\n            .Matches(@\"",
     .print (.mk (.name "f.pattern") false
      [.mk "replace" [("from", literal "\""), ("to", literal "\"\"")]]),
     .text "\")"],
   .text ";\n"]

/-- The rules of a field, if it has any. -/
abbrev ruleRoundNodes : List Node :=
  [.assign "bounded" false
    (both (both (equals "f.object_type" "string") (valueOf "f.max_length"))
      (differs "f.field_type" "textarea")),
   .assign "has_rules" false
    (either (either (either (either (valueOf "f.required") (valueOf "bounded"))
      (valueOf "f.min_length")) (equals "f.field_type" "email")) (valueOf "f.pattern")),
   provided (valueOf "has_rules") ruleNodes]

/-- The nodes of the class of the validator. -/
def validatorNodes : List Node :=
  [.text "// <auto-generated>\n//     Generated by formgen on ", put "generated_at",
   .text ".\n// </auto-generated>\nusing FluentValidation;\nusing ", put "namespace",
   .text ".Models.DTOs;\n\nnamespace ", put "namespace", .text ".Validation;\n\npublic class ",
   put "entity_name", .text "Validator : AbstractValidator<Create", put "entity_name",
   .text "Dto>\n\x7b\n    public ", put "entity_name", .text "Validator()\n    \x7b\n",
   eachField ruleRoundNodes,
   .text "    \x7d\n\x7d\n"]

/-! ## The schema -/

/-- The choice of the kind of value. -/
abbrev baseNode : Node :=
  .branch
    [(equals "f.frontend_type" "number", [.assign "base" false (literal "z.number()")]),
     (equals "f.frontend_type" "boolean", [.assign "base" false (literal "z.boolean()")]),
     (equals "f.frontend_type" "Date", [.assign "base" false (literal "z.coerce.date()")]),
     (equals "f.frontend_type" "File", [.assign "base" false (literal "z.instanceof(File)")])]
    (some [.assign "base" false (literal "z.string()")])

/-- The check of a format. -/
abbrev formatNode : Node :=
  .branch
    [(equals "f.field_type" "email",
      [.text ".email(\"", put "f.label", .text " must be a valid email address\")"]),
     (equals "f.field_type" "url",
      [.text ".url(\"", put "f.label", .text " must be a valid URL\")"])]
    none

/-- The check of the least length. -/
abbrev leastNode : Node :=
  .branch
    [(valueOf "f.required",
      [.text ".min(",
       .branch [(valueOf "f.min_length", [put "f.min_length"])] (some [.text "1"]),
       .text ", \"", put "f.label", .text " is required\")"]),
     (valueOf "f.min_length", [.text ".min(", put "f.min_length", .text ")"])]
    none

/-- The checks of a text. -/
abbrev checkNodes : List Node :=
  [formatNode, leastNode,
   provided (both (valueOf "f.max_length") (differs "f.field_type" "textarea"))
    [.text ".max(", put "f.max_length", .text ")"],
   provided (valueOf "f.pattern")
    [.text ".regex(new RegExp(", .print (.mk (.name "f.pattern") false [.mk "json_encode" []]),
     .text "))"]]

/-- The line of a field. -/
abbrev memberNodes : List Node :=
  [baseNode, .text "  ", put "f.camel_name", .text ": ", put "base",
   provided (equals "f.frontend_type" "string") checkNodes,
   provided (lacking "f.required") [.text ".optional()"], .text ",\n"]

/-- The nodes of the schema. -/
def validationSchemaNodes : List Node :=
  [.text "// Generated by formgen on ", put "generated_at",
   .text "\nimport \x7b z \x7d from \"zod\";\n\nexport const ", put "entity_name_camel",
   .text "Schema = z.object(\x7b\n",
   eachField memberNodes,
   .text "\x7d);\n\nexport type ", put "entity_name", .text "Input = z.infer<typeof ",
   put "entity_name_camel", .text "Schema>;\n"]

/-! ## Reading -/

set_option maxRecDepth 100000 in
theorem reads_entity : Node.ofText? entityCs = some entityNodes := by
  unfold entityCs
  apply reads_of_spells
  · repeat' first | exact Spells.nil | apply Spells.cons
  · unfold entityNodes
    repeat'
      first
      | exact JoinedNodes.nil
      | apply JoinedNodes.text
      | apply JoinedNodes.other
      | apply Joined.append
      | exact Joined.one
  · rfl

set_option maxRecDepth 100000 in
theorem reads_validator : Node.ofText? validatorCs = some validatorNodes := by
  unfold validatorCs
  apply reads_of_spells
  · repeat' first | exact Spells.nil | apply Spells.cons
  · unfold validatorNodes
    repeat'
      first
      | exact JoinedNodes.nil
      | apply JoinedNodes.text
      | apply JoinedNodes.other
      | apply Joined.append
      | exact Joined.one
  · rfl

set_option maxRecDepth 100000 in
theorem reads_validationSchema : Node.ofText? validationSchemaTs = some validationSchemaNodes := by
  unfold validationSchemaTs
  apply reads_of_spells
  · repeat' first | exact Spells.nil | apply Spells.cons
  · unfold validationSchemaNodes
    repeat'
      first
      | exact JoinedNodes.nil
      | apply JoinedNodes.text
      | apply JoinedNodes.other
      | apply Joined.append
      | exact Joined.one
  · rfl

end FormScaffold.Shipped
