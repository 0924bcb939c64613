import FormScaffold.Artifact.Kind
import FormScaffold.Failure
import FormScaffold.Files.FileSystem
import FormScaffold.Json.Value
import FormScaffold.Keyed
import FormScaffold.Path.Basic
import FormScaffold.Text.Blank
import FormScaffold.Text.Search

/-!
# Registry of templates

A registry names templates and tells for each its source file below a root, the kind
of file it makes and the pattern of that file's name.  It is built from a list of
entries, of which the last with a name counts, and is refused as a whole with all
that is wrong with its entries.
-/

namespace FormScaffold

open Files

/-- One registered template. -/
structure TemplateEntry where
  name : String
  kind : ArtifactKind
  source : String
  outputPattern : String
  category : ArtifactCategory
  priority : Nat
  deriving DecidableEq, Repr

namespace TemplateEntry

/-- The place of the entity's name in a pattern. -/
def placeholder : String := "\x7bEntityName\x7d"

/-- The name of the file that a template makes for an entity. -/
def outputFileName (e : TemplateEntry) (entity : String) : String :=
  Text.replaced placeholder entity e.outputPattern

/-- The data of an entry. -/
def toJson (e : TemplateEntry) : Json.Value :=
  .object
    [("name", .string e.name), ("artifact_type", .string e.kind.tag), ("source", .string e.source),
     ("output_pattern", .string e.outputPattern), ("category", .string e.category.tag),
     ("priority", .ofNat e.priority)]

/-- An entry listed under the category of its kind. -/
def ofKind (name : String) (kind : ArtifactKind) (source outputPattern : String)
    (priority : Nat) : TemplateEntry :=
  ⟨name, kind, source, outputPattern, kind.category, priority⟩

/-- What is wrong with the pattern of an entry. -/
def patternProblem? (e : TemplateEntry) : Option String :=
  if Text.isBlankText e.outputPattern then some ("'" ++ e.name ++ "' has no output pattern")
  else if !Path.isConfined e.outputPattern then
    some ("'" ++ e.name ++ "' output pattern '" ++ e.outputPattern
      ++ "' must be a relative path without '..'")
  else none

/-- What is wrong with an entry. -/
def problems (e : TemplateEntry) : List String :=
  (if Text.isBlankText e.name then ["template with an empty name"] else [])
    ++ (if e.source == "" then ["'" ++ e.name ++ "' has no source file"] else [])
    ++ e.patternProblem?.toList

end TemplateEntry

/-- Templates by name, and the root that their source files lie below. -/
structure Registry where
  root : String
  templates : Keyed TemplateEntry
  deriving DecidableEq, Repr

namespace Registry

/-- The last entry of each name. -/
def latest (entries : List TemplateEntry) : Keyed TemplateEntry :=
  Keyed.ofPairs (entries.map fun e => (e.name, e))

/-- Build a registry from entries. -/
def build (root : String) (entries : List TemplateEntry) : Except Failure Registry :=
  let templates := latest entries
  let problems := (Keyed.values templates).flatMap TemplateEntry.problems
  if problems.isEmpty then .ok ⟨root, templates⟩
  else .error (.registry (String.intercalate "; " problems))

/-- The names in order. -/
def names (r : Registry) : List String := Keyed.keys r.templates

/-- The entries in the order of their names. -/
def entries (r : Registry) : List TemplateEntry := Keyed.values r.templates

/-- The number of templates. -/
def size (r : Registry) : Nat := r.templates.length

/-- The entry of a name. -/
def get (r : Registry) (name : String) : Except Failure TemplateEntry :=
  match Keyed.get? name r.templates with
  | some e => .ok e
  | none => .error (.unknownTemplate name r.names)

/-- The name is registered. -/
def contains (r : Registry) (name : String) : Bool := Keyed.contains name r.templates

/-- The path of an entry's source file. -/
def sourceOf (r : Registry) (e : TemplateEntry) : String := Path.join r.root e.source

/-- The path of the source file of a name. -/
def sourcePath (r : Registry) (name : String) : Except Failure String :=
  match r.get name with
  | .ok e => .ok (r.sourceOf e)
  | .error f => .error f

/-- The name is registered and its source file is there. -/
def isAvailable (r : Registry) (fs : FileSystem) (name : String) : Bool :=
  match Keyed.get? name r.templates with
  | some e => fs.isFile (r.sourceOf e)
  | none => false

/-- The entries of a category by priority, then by name. -/
def inCategory (r : Registry) (c : ArtifactCategory) : List TemplateEntry :=
  (r.entries.filter fun e => e.category == c).mergeSort fun a b => decide (a.priority ≤ b.priority)

/-- Names and paths of the source files that are not there. -/
def missing (r : Registry) (fs : FileSystem) : List (String × String) :=
  (r.entries.filter fun e => !fs.isFile (r.sourceOf e)).map fun e => (e.name, r.sourceOf e)

/-- The number of entries of each category that has some. -/
def countByCategory (r : Registry) : List (ArtifactCategory × Nat) :=
  (ArtifactCategory.all.map fun c => (c, r.entries.countP fun e => e.category == c)).filter
    fun p => p.2 != 0

end Registry

end FormScaffold
