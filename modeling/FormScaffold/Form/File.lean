import FormScaffold.Files.FileSystem
import FormScaffold.Form.Definition
import FormScaffold.Record.Format

/-!
# Form definitions in files

The end of a file's name tells the format of its form; only forms without problems are
loaded.
-/

namespace FormScaffold.FormDefinition

open Record

/-- The format of a file. -/
def formatOf (path : String) : Format :=
  if [some "yml", some "yaml"].contains (Path.extension? path) then .yaml else .json

/-- Load the form of a file. -/
def load (fs : Files.FileSystem) (path : String) : Except InputError FormDefinition :=
  match fs.readText path with
  | .error e => .error (.io e)
  | .ok text =>
      match (formatOf path).read (fun _ => FormDefinition.decode) text with
      | .error e => .error e
      | .ok form =>
          match form.validate with
          | .ok () => .ok form
          | .error e => .error e

end FormScaffold.FormDefinition
