import FormScaffold.Failure
import FormScaffold.Json.Value
import FormScaffold.Record.Fields
import FormScaffold.Text.Blank
import FormScaffold.Text.Casing

/-!
# Generation options

Which families of files to generate, and the names that the files carry.
-/

namespace FormScaffold

/-!
## Databases

The kinds of database that a schema may be written for.
-/

/-- A kind of database. -/
inductive Database where
  | sqlServer
  | postgreSql
  | mySql
  | sqlite
  deriving DecidableEq, Repr

namespace Database

/-- All kinds of database. -/
def all : List Database := [sqlServer, postgreSql, mySql, sqlite]

/-- The name of a database for users. -/
def displayName : Database → String
  | sqlServer => "sqlserver"
  | postgreSql => "postgresql"
  | mySql => "mysql"
  | sqlite => "sqlite"

/-- The name of a database in data. -/
def tag : Database → String
  | sqlServer => "sql_server"
  | postgreSql => "postgre_sql"
  | mySql => "my_sql"
  | sqlite => "sqlite"

/-- Names in data with the databases they stand for. -/
def byTag : List (String × Database) := all.map fun d => (d.tag, d)

/-- The names that users give to a database. -/
def userNames : List (String × Database) :=
  [("sqlserver", sqlServer), ("mssql", sqlServer), ("sql_server", sqlServer),
   ("postgresql", postgreSql), ("postgres", postgreSql), ("pg", postgreSql),
   ("mysql", mySql), ("sqlite", sqlite)]

/-- The database that a user means; case does not count. -/
def named? (text : String) : Option Database := userNames.lookup (Text.lowercase text)

/-- The database that a user means, or what is wrong with the name. -/
def ofUserName (text : String) : Except Failure Database :=
  match named? text with
  | some d => .ok d
  | none => .error (.validation ("Unknown database kind: " ++ text))

end Database

/-! ## Generation options -/

open Record

/-- What to generate, and under which names. -/
structure GenerationOptions where
  objectModel : Bool
  relationalSchema : Bool
  uiComponents : Bool
  deployment : Bool
  projectName : String
  projectNamespace : Option String
  author : Option String
  description : Option String
  targetDatabase : Database
  additionalImports : Keyed String
  customSettings : Keyed String
  deriving DecidableEq, Repr

namespace GenerationOptions

/-- Options without a project name: everything but deployment files. -/
def standard : GenerationOptions :=
  ⟨true, true, true, false, "", none, none, none, .sqlServer, [], []⟩

/-- Options of a project without any family of files. -/
def bare (projectName : String) : GenerationOptions :=
  { standard with
    objectModel := false, relationalSchema := false, uiComponents := false, deployment := false,
    projectName := projectName }

/-- Some family of files is to be generated. -/
def anyFamily (o : GenerationOptions) : Bool :=
  o.objectModel || o.relationalSchema || o.uiComponents || o.deployment

/-- Accept options with a project name, no blank namespace, and a family of files. -/
def validate (o : GenerationOptions) : Except Failure Unit :=
  if Text.isBlankText o.projectName then .error (.validation "Project name is required")
  else if o.projectNamespace.any Text.isBlankText then
    .error (.validation "Namespace cannot be empty when provided")
  else if !o.anyFamily then
    .error (.validation "At least one artifact family must be enabled")
  else .ok ()

/-- Read options; every field has a default. -/
def decode {σ : Type} [Source σ] : Decode σ GenerationOptions :=
  Fields.decode (GenerationOptions.mk
    <$> .defaulted "generate_object_model" [] standard.objectModel bool
    <*> .defaulted "generate_relational_schema" [] standard.relationalSchema bool
    <*> .defaulted "generate_ui_components" [] standard.uiComponents bool
    <*> .defaulted "generate_deployment" [] standard.deployment bool
    <*> .defaulted "project_name" [] standard.projectName text
    <*> .defaulted "namespace" [] standard.projectNamespace (optionOf text)
    <*> .defaulted "author" [] standard.author (optionOf text)
    <*> .defaulted "description" [] standard.description (optionOf text)
    <*> .defaulted "target_database" [] standard.targetDatabase (choice Database.byTag)
    <*> .defaulted "additional_imports" [] standard.additionalImports textMap
    <*> .defaulted "custom_settings" [] standard.customSettings textMap)

/-- The data of options. -/
def toJson (o : GenerationOptions) : Json.Value :=
  .object
    [("generate_object_model", .bool o.objectModel),
     ("generate_relational_schema", .bool o.relationalSchema),
     ("generate_ui_components", .bool o.uiComponents),
     ("generate_deployment", .bool o.deployment),
     ("project_name", .string o.projectName),
     ("namespace", .ofOption .string o.projectNamespace),
     ("author", .ofOption .string o.author),
     ("description", .ofOption .string o.description),
     ("target_database", .string o.targetDatabase.tag),
     ("additional_imports", .ofStringMap o.additionalImports),
     ("custom_settings", .ofStringMap o.customSettings)]

end GenerationOptions

end FormScaffold
