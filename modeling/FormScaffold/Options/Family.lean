import FormScaffold.Options.Basic

/-!
# Families of files

Each family is a fixed, ordered list of templates.  A template that is optional is
left out when it is not at hand.
-/

namespace FormScaffold

/-- A family of generated files. -/
inductive Family where
  | objectModel
  | relationalSchema
  | uiComponents
  | deployment
  deriving DecidableEq, Repr

/-- A template of a family. -/
structure FamilyTemplate where
  name : String
  isOptional : Bool
  deriving DecidableEq, Repr

namespace Family

/-- All families in the order of rendering. -/
def all : List Family := [objectModel, relationalSchema, uiComponents, deployment]

/-- The name of a family. -/
def tag : Family → String
  | objectModel => "object_model"
  | relationalSchema => "relational_schema"
  | uiComponents => "ui_components"
  | deployment => "deployment"

/-- The templates of a family in the order of rendering. -/
def templates : Family → List FamilyTemplate
  | objectModel =>
      [⟨"entity", false⟩, ⟨"repository_interface", false⟩, ⟨"repository", false⟩,
       ⟨"controller", false⟩, ⟨"dto", false⟩, ⟨"mapping_profile", false⟩, ⟨"validator", false⟩,
       ⟨"entity_tests", true⟩]
  | relationalSchema => [⟨"create_table", false⟩, ⟨"stored_procedures", false⟩]
  | uiComponents =>
      [⟨"form_component", false⟩, ⟨"list_component", false⟩, ⟨"ui_types", false⟩,
       ⟨"validation_schema", false⟩]
  | deployment =>
      [⟨"project_file", false⟩, ⟨"dockerfile", false⟩, ⟨"ci_pipeline", false⟩,
       ⟨"app_settings", true⟩]

/-- The options ask for the family. -/
def isEnabled (o : GenerationOptions) : Family → Bool
  | objectModel => o.objectModel
  | relationalSchema => o.relationalSchema
  | uiComponents => o.uiComponents
  | deployment => o.deployment

/-- The families that options ask for, in the order of rendering. -/
def enabled (o : GenerationOptions) : List Family := all.filter (isEnabled o)

end Family

end FormScaffold
