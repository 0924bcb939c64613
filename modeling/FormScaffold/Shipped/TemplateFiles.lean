import FormScaffold.Shipped.Deployment
import FormScaffold.Shipped.ObjectModel
import FormScaffold.Shipped.Sql
import FormScaffold.Shipped.Ui

/-!
# The shipped template files

All template files that come with the generator, by their paths below the folder of
templates.
-/

namespace FormScaffold.Shipped

/-- Paths and texts of the template files. -/
def templateFiles : List (String × String) :=
  [("deployment/Dockerfile.tera", dockerfile),
   ("deployment/appsettings.json.tera", appsettingsJson),
   ("deployment/ci_pipeline.yml.tera", ciPipelineYml),
   ("deployment/project_file.csproj.tera", projectFileCsproj),
   ("object_model/controller.cs.tera", controllerCs),
   ("object_model/dto.cs.tera", dtoCs),
   ("object_model/entity.cs.tera", entityCs),
   ("object_model/mapping_profile.cs.tera", mappingProfileCs),
   ("object_model/repository.cs.tera", repositoryCs),
   ("object_model/repository_interface.cs.tera", repositoryInterfaceCs),
   ("object_model/validator.cs.tera", validatorCs),
   ("sql/create_table.sql.tera", createTableSql),
   ("sql/stored_procedures.sql.tera", storedProceduresSql),
   ("tests/entity_tests.cs.tera", entityTestsCs),
   ("ui/form_component.tsx.tera", formComponentTsx),
   ("ui/list_component.tsx.tera", listComponentTsx),
   ("ui/types.ts.tera", typesTs),
   ("ui/validation_schema.ts.tera", validationSchemaTs)]

end FormScaffold.Shipped
