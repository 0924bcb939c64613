import FormScaffold.Failure
import FormScaffold.Files.FileSystem
import FormScaffold.Hash.Sha256
import FormScaffold.Template.Rendering

/-!
# The template engine

The engine keeps compiled templates with the hash of the source of each.  A source that
is compiled under its name already is not read again, and a source that cannot be
compiled leaves the engine as it was.
-/

namespace FormScaffold.Template

open FormScaffold FormScaffold.Json FormScaffold.Calendar FormScaffold.Files

/-- Compiled templates, and the hash of the source of each. -/
structure Engine where
  library : Library
  fingerprints : Keyed String

namespace Engine

/-- An engine without templates. -/
def empty : Engine := ⟨[], []⟩

/-- The hash of a source. -/
def fingerprint (source : String) : String := Hash.Sha256.hexDigest (Text.utf8Bytes source)

/-- How many templates are compiled. -/
def count (e : Engine) : Nat := e.fingerprints.length

/-- A template of this name is compiled. -/
def isCompiled (e : Engine) (name : String) : Bool := Keyed.contains name e.fingerprints

/-- What the engine tells about itself. -/
def description (e : Engine) : String :=
  "TemplateEngine \x7b cached: " ++ toString e.count ++ " \x7d"

/-- Compile a source under a name. -/
def compile (e : Engine) (name source : String) : Except Failure Engine :=
  let print := fingerprint source
  if Keyed.get? name e.fingerprints == some print then .ok e
  else
    match e.library.compile name source with
    | .error text => .error (.templateCompile name [text])
    | .ok library => .ok ⟨library, Keyed.insert name print e.fingerprints⟩

/-- Values that every template sees unless its model has them. -/
def dateConstants (now : Instant) : List (String × Value) :=
  [("current_date", .string (String.ofList (dateText now.moment.date))),
   ("current_year", .ofInt now.moment.date.year),
   ("generated_at", .string now.offsetText)]

/-- The values that a template sees. -/
def withDateConstants (now : Instant) (given : Keyed Value) : Keyed Value :=
  inherit (dateConstants now) given

/-- The failure of a rendering, from the texts of its causes. -/
def renderFailure (name : String) (texts : List String) : Failure :=
  .render name (String.intercalate ": " (distinctTexts texts))

/-- Render a compiled template with a model. -/
def render (e : Engine) (world : Functions.World) (name : String) (model : Value) :
    Except Failure String :=
  match model.normalized with
  | .object given =>
      match e.library.render world (withDateConstants world.now given) name with
      | .ok text => .ok text
      | .error texts => .error (renderFailure name texts)
  | _ =>
      .error (renderFailure name
        ["Creating a Context from a Value/Serialize requires it being a JSON object"])

/-- The source of a template file. -/
def readSource (fs : FileSystem) (name path : String) : Except Failure String :=
  match fs.readText path with
  | .ok source => .ok source
  | .error .notFound => .error (.templateNotFound name path)
  | .error cause => .error (.io cause)

/-- Read a template file, compile it under a name, and render it.  The engine keeps the
template even if it does not render. -/
def renderFile (e : Engine) (fs : FileSystem) (world : Functions.World) (name path : String)
    (model : Value) : Engine × Except Failure String :=
  match readSource fs name path with
  | .error f => (e, .error f)
  | .ok source =>
      match e.compile name source with
      | .error f => (e, .error f)
      | .ok e => (e, e.render world name model)

end Engine

end FormScaffold.Template
