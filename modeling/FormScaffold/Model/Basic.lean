import FormScaffold.Calendar.Timestamp
import FormScaffold.Form.Definition
import FormScaffold.Form.FieldType
import FormScaffold.Naming.Words
import FormScaffold.Naming.Plural
import FormScaffold.Options.Basic

/-!
# The model of a run

Everything that templates may refer to, computed once from a form, options and the
time of the run: the names of the entity, and for each field its names and types.
-/

namespace FormScaffold

open Naming

/-- A field as templates see it. -/
structure FieldModel where
  name : String
  typeTag : String
  required : Bool
  label : String
  placeholder : Option String
  defaultValue : Option Json.Value
  maxLength : Option Nat
  minLength : Option Nat
  pattern : Option String
  choices : List FieldChoice
  pascalName : String
  camelName : String
  snakeName : String
  types : TypeMapping
  deriving Repr

namespace FieldModel

/-- The model of a form's field. -/
def ofField (f : FormField) : FieldModel :=
  let name := f.trimmedName
  { name := name
    typeTag := FormScaffold.typeTag f.fieldType
    required := f.required
    label := f.label.getD (pascalCase name)
    placeholder := f.placeholder
    defaultValue := f.defaultValue
    maxLength := f.maxLength
    minLength := f.minLength
    pattern := f.pattern
    choices := f.choices
    pascalName := pascalCase name
    camelName := camelCase name
    snakeName := snakeCase name
    types := mapFieldType f.fieldType f.required f.maxLength }

/-- The data of a field for templates. -/
def toJson (f : FieldModel) : Json.Value :=
  .object
    ([("name", .string f.name), ("field_type", .string f.typeTag), ("required", .bool f.required),
     ("label", .string f.label), ("placeholder", .ofOption .string f.placeholder),
     ("default_value", .ofOption id f.defaultValue), ("max_length", .ofOption .ofNat f.maxLength),
     ("min_length", .ofOption .ofNat f.minLength), ("pattern", .ofOption .string f.pattern),
     ("options", .array (f.choices.map FieldChoice.toJson)),
     ("pascal_name", .string f.pascalName), ("camel_name", .string f.camelName),
     ("snake_name", .string f.snakeName)] ++ f.types.members)

end FieldModel

/-- The data that all templates of a run share. -/
structure Model where
  entityName : String
  entityNamePlural : String
  entityNameCamel : String
  entityNameCamelPlural : String
  entityNameSnake : String
  tableName : String
  projectName : String
  projectNamespace : String
  author : Option String
  description : Option String
  formName : Option String
  database : Database
  generatedAt : String
  fields : List FieldModel
  requiredFields : List String
  additionalImports : Keyed String
  customSettings : Keyed String
  deriving Repr

namespace Model

/-- The namespace of an entity's code when the options name none. -/
def defaultNamespace (entity : String) : String := entity ++ ".Api"

/-- The model of a form under options at an instant. -/
def build (form : FormDefinition) (options : GenerationOptions) (now : Calendar.Instant) : Model :=
  let entity := Naming.entityName options.projectName
  let plural := pluralize entity
  let fields := form.fields.map FieldModel.ofField
  { entityName := entity
    entityNamePlural := plural
    entityNameCamel := camelCase entity
    entityNameCamelPlural := camelCase plural
    entityNameSnake := snakeCase entity
    tableName := plural
    projectName := options.projectName
    projectNamespace := options.projectNamespace.getD (defaultNamespace entity)
    author := options.author
    description := options.description.or form.description
    formName := form.name
    database := options.targetDatabase
    generatedAt := now.offsetText
    fields := fields
    requiredFields := (fields.filter FieldModel.required).map FieldModel.pascalName
    additionalImports := options.additionalImports
    customSettings := options.customSettings }

/-- The data of a model for templates. -/
def toJson (m : Model) : Json.Value :=
  .object
    [("entity_name", .string m.entityName), ("entity_name_plural", .string m.entityNamePlural),
     ("entity_name_camel", .string m.entityNameCamel),
     ("entity_name_camel_plural", .string m.entityNameCamelPlural),
     ("entity_name_snake", .string m.entityNameSnake), ("table_name", .string m.tableName),
     ("project_name", .string m.projectName), ("namespace", .string m.projectNamespace),
     ("author", .ofOption .string m.author), ("description", .ofOption .string m.description),
     ("form_name", .ofOption .string m.formName), ("database", .string m.database.tag),
     ("generated_at", .string m.generatedAt), ("fields", .array (m.fields.map FieldModel.toJson)),
     ("required_fields", .ofStrings m.requiredFields),
     ("additional_imports", .ofStringMap m.additionalImports),
     ("custom_settings", .ofStringMap m.customSettings)]

end Model

end FormScaffold
