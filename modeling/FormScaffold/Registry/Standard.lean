import FormScaffold.Registry.Basic

/-!
# The standard templates

The entries of the templates that come with the generator.
-/

namespace FormScaffold.Registry

/-- The entries of the standard templates. -/
def standardEntries : List TemplateEntry :=
  [.ofKind "entity" .entity "object_model/entity.cs.tera" "\x7bEntityName\x7d.cs" 10,
   .ofKind "repository_interface" .repositoryInterface
     "object_model/repository_interface.cs.tera" "I\x7bEntityName\x7dRepository.cs" 20,
   .ofKind "repository" .repository "object_model/repository.cs.tera"
     "\x7bEntityName\x7dRepository.cs" 30,
   .ofKind "controller" .controller "object_model/controller.cs.tera"
     "\x7bEntityName\x7dController.cs" 40,
   .ofKind "dto" .dto "object_model/dto.cs.tera" "\x7bEntityName\x7dDto.cs" 50,
   .ofKind "mapping_profile" .mappingProfile "object_model/mapping_profile.cs.tera"
     "\x7bEntityName\x7dMappingProfile.cs" 60,
   .ofKind "validator" .validator "object_model/validator.cs.tera"
     "\x7bEntityName\x7dValidator.cs" 70,
   .ofKind "entity_tests" .unitTest "tests/entity_tests.cs.tera" "\x7bEntityName\x7dTests.cs" 10,
   .ofKind "create_table" .sqlTable "sql/create_table.sql.tera"
     "\x7bEntityName\x7d_Table.sql" 10,
   .ofKind "stored_procedures" .storedProcedure "sql/stored_procedures.sql.tera"
     "\x7bEntityName\x7d_Procedures.sql" 20,
   .ofKind "form_component" .uiComponent "ui/form_component.tsx.tera"
     "\x7bEntityName\x7dForm.tsx" 10,
   .ofKind "list_component" .uiComponent "ui/list_component.tsx.tera"
     "\x7bEntityName\x7dList.tsx" 20,
   .ofKind "ui_types" .uiTypes "ui/types.ts.tera" "\x7bEntityName\x7d.types.ts" 30,
   .ofKind "validation_schema" .uiValidation "ui/validation_schema.ts.tera"
     "\x7bEntityName\x7d.schema.ts" 40,
   .ofKind "project_file" .projectFile "deployment/project_file.csproj.tera"
     "\x7bEntityName\x7d.csproj" 10,
   .ofKind "dockerfile" .dockerfile "deployment/Dockerfile.tera" "Dockerfile" 20,
   .ofKind "ci_pipeline" .ciPipeline "deployment/ci_pipeline.yml.tera"
     "build-\x7bEntityName\x7d.yml" 30,
   .ofKind "app_settings" .appSettings "deployment/appsettings.json.tera" "appsettings.json" 40]

/-- The registry of the standard templates below a root. -/
def standard (root : String) : Except Failure Registry := build root standardEntries

end FormScaffold.Registry
