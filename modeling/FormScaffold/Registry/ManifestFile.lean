import FormScaffold.Record.Fields
import FormScaffold.Record.Format
import FormScaffold.Registry.Basic

/-!
# Registry manifests in files

A manifest is written in YAML.  Its templates lie in the folder that it stands in, unless
it names a root.
-/

namespace FormScaffold.Registry

/-!
## Registry manifests

A manifest lists the templates of a registry.  It may name a root; a relative one is
seen from the folder that the manifest stands in.
-/

open Record

/-- One template of a manifest. -/
structure ManifestEntry where
  name : String
  kind : ArtifactKind
  source : String
  outputPattern : String
  category : Option ArtifactCategory
  priority : Nat
  deriving DecidableEq, Repr

/-- The templates to register in order, and the root of their sources. -/
structure Manifest where
  root : Option String
  templates : List ManifestEntry
  deriving DecidableEq, Repr

namespace ManifestEntry

/-- The entry of a registry; without a category it is listed under that of its kind. -/
def toEntry (e : ManifestEntry) : TemplateEntry :=
  ⟨e.name, e.kind, e.source, e.outputPattern, e.category.getD e.kind.category, e.priority⟩

/-- Read one template. -/
def decode {σ : Type} [Source σ] : Decode σ ManifestEntry :=
  Fields.decode (ManifestEntry.mk <$> .required "name" text
    <*> .required "artifact_type" (choice ArtifactKind.byTag)
    <*> .required "source" text
    <*> .required "output_pattern" text
    <*> .defaulted "category" [] none (optionOf (choice ArtifactCategory.byTag))
    <*> .defaulted "priority" [] 0 word32)

/-- The data of one template. -/
def toJson (e : ManifestEntry) : Json.Value :=
  .object
    [("name", .string e.name), ("artifact_type", .string e.kind.tag), ("source", .string e.source),
     ("output_pattern", .string e.outputPattern),
     ("category", .ofOption (fun c => .string c.tag) e.category), ("priority", .ofNat e.priority)]

end ManifestEntry

namespace Manifest

/-- Read a manifest. -/
def decode {σ : Type} [Source σ] : Decode σ Manifest :=
  Fields.decode (Manifest.mk <$> .defaulted "root" [] none (optionOf text)
    <*> .defaulted "templates" [] [] (listOf ManifestEntry.decode))

/-- The data of a manifest. -/
def toJson (m : Manifest) : Json.Value :=
  .object
    [("root", .ofOption .string m.root),
     ("templates", .array (m.templates.map ManifestEntry.toJson))]

/-- The root of a manifest that stands in a folder. -/
def rootIn (m : Manifest) (folder : String) : String :=
  match m.root with
  | some root => Path.join folder root
  | none => folder

/-- The registry of a manifest that stands in a folder. -/
def toRegistry (m : Manifest) (folder : String) : Except Failure Registry :=
  build (m.rootIn folder) (m.templates.map ManifestEntry.toEntry)

end Manifest

/-! ## Registry manifests in files -/

open Files

namespace Manifest

/-- Read a manifest from its text. -/
def ofText (text : String) : Except Failure Manifest :=
  match Record.Format.yaml.read (fun _ => Manifest.decode) text with
  | .ok m => .ok m
  | .error e => .error (.registry ("Invalid registry manifest: " ++ (e.causeText?.getD "")))

/-- Read the manifest of a file. -/
def load (fs : FileSystem) (path : String) : Except Failure Manifest :=
  match fs.readText path with
  | .ok text => ofText text
  | .error e =>
      .error (.registry ("Failed to read registry manifest " ++ path ++ ": " ++ e.message))

end Manifest

/-- The registry of a manifest in a file. -/
def ofManifestFile (fs : FileSystem) (path : String) : Except Failure Registry :=
  match Manifest.load fs path with
  | .ok m => m.toRegistry ((Path.parent? path).getD ".")
  | .error e => .error e

end FormScaffold.Registry
