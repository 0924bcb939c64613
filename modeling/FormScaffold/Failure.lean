import FormScaffold.Files.FileSystem
import FormScaffold.Job.Status

/-!
# Failures

Why a step of a generation run fails, and why an input file is not usable.  Each
cause has one wording; a failure caused by another one also tells the text of that.
-/

namespace FormScaffold

open FormScaffold.Files

/-- Why a step of a generation run fails. -/
inductive Failure where
  | validation (text : String)
  | invalidState (operation : String) (status : JobStatus)
  | templateNotFound (name path : String)
  | unknownTemplate (name : String) (registered : List String)
  | templateCompile (name : String) (diagnostics : List String)
  | render (name text : String)
  | registry (text : String)
  | organize (text : String)
  | archive (text : String)
  | cancelled
  | io (cause : FileError)
  | serialization (text : String)
  | zip (text : String)
  deriving DecidableEq, Repr

/-- Texts in order, without those that occurred before. -/
def distinctTexts (texts : List String) : List String :=
  texts.foldl (fun seen t => if seen.contains t then seen else seen ++ [t]) []

namespace Failure

/-- The wording of a failure. -/
def message : Failure → String
  | validation text => "Validation error: " ++ text
  | invalidState operation status => "Cannot " ++ operation ++ " job in state " ++ status.name
  | templateNotFound name path => "Template '" ++ name ++ "' not found at " ++ path
  | unknownTemplate name registered =>
      "Template '" ++ name ++ "' is not registered. Registered templates: "
        ++ String.intercalate ", " registered
  | templateCompile name diagnostics =>
      "Failed to compile template '" ++ name ++ "': " ++ String.intercalate "; " diagnostics
  | render name text => "Failed to render template '" ++ name ++ "': " ++ text
  | registry text => "Registry error: " ++ text
  | organize text => "Organize error: " ++ text
  | archive text => "Archive error: " ++ text
  | cancelled => "Generation cancelled"
  | io cause => "IO error: " ++ cause.message
  | serialization text => "Serialization error: " ++ text
  | zip text => "Zip error: " ++ text

/-- The text of what caused a failure. -/
def causeText? : Failure → Option String
  | io cause => some cause.message
  | serialization text => some text
  | zip text => some text
  | _ => none

/-- The wording of a failure and that of its cause, if it differs. -/
def chain (f : Failure) : List String := distinctTexts (f.message :: f.causeText?.toList)

end Failure

/-- Why a configuration or a form definition is not usable. -/
inductive InputError where
  | io (cause : FileError)
  | yaml (text : String)
  | json (text : String)
  | toml (text : String)
  | form (text : String)
  | config (text : String)
  deriving DecidableEq, Repr

namespace InputError

/-- The wording of an input error. -/
def message : InputError → String
  | io cause => "I/O error: " ++ cause.message
  | yaml text => "YAML parsing error: " ++ text
  | json text => "JSON parsing error: " ++ text
  | toml text => "TOML parsing error: " ++ text
  | form text => "Form definition error: " ++ text
  | config text => "Configuration error: " ++ text

/-- The text of what caused an input error. -/
def causeText? : InputError → Option String
  | io cause => some cause.message
  | yaml text => some text
  | json text => some text
  | toml text => some text
  | form _ | config _ => none

/-- The wording of an input error and that of its cause, if it differs. -/
def chain (e : InputError) : List String := distinctTexts (e.message :: e.causeText?.toList)

end InputError

end FormScaffold
