import FormScaffold.Options.Basic

/-!
# Commands

The commands of the program, which of them stand below others, and what each takes.  Two
options may be given to every command, and then hold for the whole call.
-/

namespace FormScaffold.CommandLine

/-!
## Options of a command line

The options that commands take, what kind of value follows each, and what a reader is
told about them.
-/

/-- What a value is read as. -/
inductive ValueKind where
  | text
  | path
  | database
  deriving DecidableEq, Repr

/-- A text may stand for a value of a kind; a path is not empty. -/
def ValueKind.accepts : ValueKind → String → Bool
  | .text, _ => true
  | .path, s => s != ""
  | .database, s => (Database.named? s).isSome

/-- An option. -/
inductive Setting where
  | config
  | templatesDir
  | form
  | projectName
  | projectNamespace
  | author
  | description
  | database
  | objectModel
  | relationalSchema
  | uiComponents
  | deployment
  | outputDir
  | archiveDir
  | requestedBy
  | json
  deriving DecidableEq, Repr

namespace Setting

/-- The name of an option, which two dashes precede. -/
def name : Setting → String
  | config => "config"
  | templatesDir => "templates-dir"
  | form => "form"
  | projectName => "project-name"
  | projectNamespace => "namespace"
  | author => "author"
  | description => "description"
  | database => "database"
  | objectModel => "object-model"
  | relationalSchema => "relational-schema"
  | uiComponents => "ui-components"
  | deployment => "deployment"
  | outputDir => "output-dir"
  | archiveDir => "archive-dir"
  | requestedBy => "requested-by"
  | json => "json"

/-- What follows an option; nothing follows a switch. -/
def kind? : Setting → Option ValueKind
  | config | templatesDir | form | outputDir | archiveDir => some .path
  | projectName | projectNamespace | author | description | requestedBy => some .text
  | database => some .database
  | objectModel | relationalSchema | uiComponents | deployment | json => none

/-- The value of an option that is not given. -/
def standard? : Setting → Option String
  | database => some "sqlserver"
  | requestedBy => some "formgen-cli"
  | _ => none

/-- What an option is for. -/
def purpose : Setting → String
  | config => "Configuration file (TOML, YAML or JSON)"
  | templatesDir => "Template root, overriding configuration and environment"
  | form => "Form definition file (JSON, or YAML for .yml/.yaml)"
  | projectName => "Project name; the entity name is derived from it"
  | projectNamespace | author | description => ""
  | database => "Target database: sqlserver, postgresql, mysql or sqlite"
  | objectModel => "Generate the object-model family"
  | relationalSchema => "Generate the relational-schema family"
  | uiComponents => "Generate the UI-component family"
  | deployment => "Generate the deployment family"
  | outputDir => "Directory receiving the organized project folder"
  | archiveDir => "Directory receiving the archive"
  | requestedBy => "Identity recorded on the job"
  | json => "Print the finished job as JSON"

/-- How a value is called in explanations. -/
def valueName (s : Setting) : String :=
  String.ofList (s.name.toList.map fun c => if c == '-' then '_' else c.toUpper)

/-- How an option is written, with a name for its value. -/
def usage (s : Setting) : String :=
  "--" ++ s.name ++ (if s.kind?.isSome then " <" ++ s.valueName ++ ">" else "")

end Setting

/-! ## Commands -/

/-- The name of the program. -/
def programName : String := "formgen"

/-- The version of the program. -/
def programVersion : String := "0.1.0"

/-- The program itself, or a command below it. -/
inductive Command where
  | program
  | generate
  | templates
  | listTemplates
  | validateTemplates
  | archive
  | listArchive
  | extractArchive
  deriving DecidableEq, Repr

namespace Command

/-- The name of a command among those below the same one. -/
def name : Command → String
  | program => programName
  | generate => "generate"
  | templates => "templates"
  | listTemplates | listArchive => "list"
  | validateTemplates => "validate"
  | archive => "archive"
  | extractArchive => "extract"

/-- The names that lead to a command. -/
def words : Command → List String
  | program => [programName]
  | generate => [programName, generate.name]
  | templates => [programName, templates.name]
  | listTemplates => [programName, templates.name, listTemplates.name]
  | validateTemplates => [programName, templates.name, validateTemplates.name]
  | archive => [programName, archive.name]
  | listArchive => [programName, archive.name, listArchive.name]
  | extractArchive => [programName, archive.name, extractArchive.name]

/-- The commands below a command. -/
def children : Command → List Command
  | program => [generate, templates, archive]
  | templates => [listTemplates, validateTemplates]
  | archive => [listArchive, extractArchive]
  | generate | listTemplates | validateTemplates | listArchive | extractArchive => []

/-- The command of a name below a command. -/
def child? (c : Command) (name : String) : Option Command :=
  c.children.find? fun d => d.name == name

/-- What a command is for. -/
def purpose : Command → String
  | program => "Generate entity, schema and UI source bundles from form definitions"
  | generate => "Generate artifacts from a form definition"
  | templates => "Inspect the template registry"
  | listTemplates => "List registered templates"
  | validateTemplates => "Check every registered template has a source file"
  | archive => "Inspect or unpack generated archives"
  | listArchive => "List archive entries"
  | extractArchive => "Extract an archive into a directory"

/-- The options that every command takes. -/
def sharedSettings : List Setting := [.config, .templatesDir]

/-- The options of a command alone. -/
def ownSettings : Command → List Setting
  | generate =>
      [.form, .projectName, .projectNamespace, .author, .description, .database, .objectModel,
       .relationalSchema, .uiComponents, .deployment, .outputDir, .archiveDir, .requestedBy,
       .json]
  | _ => []

/-- The options of a command. -/
def settings (c : Command) : List Setting := sharedSettings ++ c.ownSettings

/-- The option of a name. -/
def setting? (c : Command) (name : String) : Option Setting :=
  c.settings.find? fun s => s.name == name

/-- The options that a command cannot do without. -/
def required : Command → List Setting
  | generate => [.form, .projectName]
  | _ => []

/-- The paths that follow a command, by the names that explanations give them. -/
def operands : Command → List String
  | listArchive => ["ARCHIVE"]
  | extractArchive => ["ARCHIVE", "DESTINATION"]
  | _ => []

end Command

end FormScaffold.CommandLine
