import FormScaffold.Artifact.Kind
import FormScaffold.Files.FileSystem
import FormScaffold.Keyed
import FormScaffold.Output.Layout
import FormScaffold.Record.Fields
import FormScaffold.Record.Format
import FormScaffold.Text.Casing

/-!
# Configuration

The settings of a call, and how they are found.
-/

namespace FormScaffold

/-!
## Configuration

Where templates are read from and where results go.  The end of a file's name tells the
format of the configuration in it; what a file leaves out has its default.
-/

open Record

/-- The settings of the generator. -/
structure Config where
  templatesDir : String
  outputDir : String
  archiveDir : String
  manifest : Option String
  folders : List (ArtifactKind × String)
  deriving DecidableEq, Repr

namespace Config

/-- The settings without a configuration file. -/
def standard : Config := ⟨"templates", "generated", "archives", none, []⟩

/-- Folders in the order of the kinds, the last of a kind counting. -/
def orderedFolders (given : List (ArtifactKind × String)) : List (ArtifactKind × String) :=
  (Output.Layout.empty.insertAll given).folders

/-- Read settings. -/
def decode {σ : Type} [Source σ] : Decode σ Config :=
  Fields.decode (Config.mk <$> .defaulted "templates_dir" [] standard.templatesDir text
    <*> .defaulted "output_dir" [] standard.outputDir text
    <*> .defaulted "archive_dir" [] standard.archiveDir text
    <*> .defaulted "registry_manifest" [] standard.manifest (optionOf text)
    <*> (orderedFolders <$> .defaulted "folder_layout" [] standard.folders
      (entriesOf (choiceNamed ArtifactKind.byTag) text)))

/-- The data of the settings. -/
def toJson (c : Config) : Json.Value :=
  .object
    [("templates_dir", .string c.templatesDir), ("output_dir", .string c.outputDir),
     ("archive_dir", .string c.archiveDir),
     ("registry_manifest", .ofOption .string c.manifest),
     ("folder_layout", .object (c.folders.map fun p => (p.1.tag, .string p.2)))]

/-- The format that the end of a file's name tells. -/
def formatOf (path : String) : Except InputError Format :=
  let ending := (Path.extension? path).map fun e => String.ofList (e.toList.map Char.toLower)
  match ending with
  | none | some "toml" => .ok .toml
  | some "yml" | some "yaml" => .ok .yaml
  | some "json" => .ok .json
  | some other =>
      .error (.config ("Unsupported configuration format '" ++ other ++ "' for " ++ path))

/-- Read the settings in the text of a file. -/
def parse (path text : String) : Except InputError Config :=
  match formatOf path with
  | .ok format => format.read (fun _ => decode) text
  | .error e => .error e

end Config

end FormScaffold

namespace FormScaffold.Config

/-!
## Finding the configuration

The settings come from a given file, or from the first usual place that holds one, or
are the standard ones.  The folder of the templates may be set from outside.
-/

open Files

/-- The environment's name for the folder of the templates. -/
def templatesVariable : String := "FORMGEN_TEMPLATE_DIR"

/-- The configuration file of the working folder. -/
def localFile : String := "formgen.toml"

/-- The settings of a file. -/
def load (fs : FileSystem) (path : String) : Except InputError Config :=
  match fs.readText path with
  | .ok text => parse path text
  | .error e => .error (.config ("Failed to read configuration " ++ path ++ ": " ++ e.message))

/-- The usual places of a configuration; the argument is the folder of the user's own. -/
def usualPlaces (userFolder : Option String) : List String :=
  localFile :: (userFolder.map fun f => Path.join (Path.join f "formgen") "config.toml").toList

/-- The settings to use. -/
def discover (fs : FileSystem) (given userFolder templatesDir : Option String) :
    Except InputError Config :=
  let chosen := given.or ((usualPlaces userFolder).find? fs.isFile)
  let found :=
    match chosen with
    | some path => load fs path
    | none => .ok standard
  match found, templatesDir with
  | .ok c, some dir => .ok { c with templatesDir := dir }
  | found, _ => found

end FormScaffold.Config
