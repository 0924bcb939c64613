import FormScaffold.Failure
import FormScaffold.Text.Blank
import FormScaffold.Text.Casing

/-!
# Kinds of artifacts

Each generated file is of one kind.  The kind decides the folder that the file is
placed in and the category under which it is listed.
-/

namespace FormScaffold

/-- What a generated file is. -/
inductive ArtifactKind where
  | entity
  | repositoryInterface
  | repository
  | controller
  | dto
  | mappingProfile
  | validator
  | unitTest
  | sqlTable
  | storedProcedure
  | uiComponent
  | uiTypes
  | uiValidation
  | projectFile
  | dockerfile
  | ciPipeline
  | appSettings
  deriving DecidableEq, Repr

/-- The part of a project that a kind of file belongs to. -/
inductive ArtifactCategory where
  | objectModel
  | test
  | relational
  | ui
  | deployment
  deriving DecidableEq, Repr

namespace ArtifactCategory

/-- All categories in the order of listing. -/
def all : List ArtifactCategory := [objectModel, test, relational, ui, deployment]

/-- The name of a category in data. -/
def tag : ArtifactCategory → String
  | objectModel => "object_model"
  | test => "test"
  | relational => "relational"
  | ui => "ui"
  | deployment => "deployment"

/-- The name of a category for readers. -/
def heading : ArtifactCategory → String
  | objectModel => "Backend"
  | test => "Tests"
  | relational => "Database"
  | ui => "Frontend"
  | deployment => "Deployment"

/-- Names in data with the categories they stand for. -/
def byTag : List (String × ArtifactCategory) := all.map fun c => (c.tag, c)

end ArtifactCategory

namespace ArtifactKind

/-- All kinds in order. -/
def all : List ArtifactKind :=
  [entity, repositoryInterface, repository, controller, dto, mappingProfile, validator, unitTest,
   sqlTable, storedProcedure, uiComponent, uiTypes, uiValidation, projectFile, dockerfile,
   ciPipeline, appSettings]

/-- The name of a kind. -/
def tag : ArtifactKind → String
  | entity => "entity"
  | repositoryInterface => "repository_interface"
  | repository => "repository"
  | controller => "controller"
  | dto => "dto"
  | mappingProfile => "mapping_profile"
  | validator => "validator"
  | unitTest => "unit_test"
  | sqlTable => "sql_table"
  | storedProcedure => "stored_procedure"
  | uiComponent => "ui_component"
  | uiTypes => "ui_types"
  | uiValidation => "ui_validation"
  | projectFile => "project_file"
  | dockerfile => "dockerfile"
  | ciPipeline => "ci_pipeline"
  | appSettings => "app_settings"

/-- The category that a kind is listed under. -/
def category : ArtifactKind → ArtifactCategory
  | entity | repositoryInterface | repository | controller | dto | mappingProfile | validator =>
      .objectModel
  | unitTest => .test
  | sqlTable | storedProcedure => .relational
  | uiComponent | uiTypes | uiValidation => .ui
  | projectFile | dockerfile | ciPipeline | appSettings => .deployment

/-- Names with the kinds they stand for. -/
def byTag : List (String × ArtifactKind) := all.map fun k => (k.tag, k)

/-- The position of a kind among all kinds. -/
def index (k : ArtifactKind) : Nat := all.idxOf k

/-- The kind that a user means: case, blanks around the name and the choice between
`-` and `_` do not count. -/
def named? (text : String) : Option ArtifactKind :=
  let normal := (Text.lower (Text.trim text.toList)).map fun c => if c == '-' then '_' else c
  all.find? fun k => k.tag == String.ofList normal

/-- The kind that a user means, or what is wrong with the name. -/
def ofUserName (text : String) : Except Failure ArtifactKind :=
  match named? text with
  | some k => .ok k
  | none => .error (.validation ("Unknown artifact type: " ++ text))

end ArtifactKind

end FormScaffold
