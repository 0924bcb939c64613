import FormScaffold.Failure
import FormScaffold.Json.Reader
import FormScaffold.Json.Source
import FormScaffold.Toml.Document
import FormScaffold.Yaml.Document

/-!
# Records from texts

A record may be written in one of three formats.  A text that is not of its format, or
whose data is not such a record, fails with the format's own kind of error.
-/

namespace FormScaffold.Record

/-- Formats of data. -/
inductive Format where
  | json
  | yaml
  | toml
  deriving DecidableEq, Repr

/-- A description of data that is not the wanted record. -/
def DecodeError.description (e : DecodeError) : String :=
  match e with
  | .duplicateField name => "duplicate field `" ++ name ++ "`"
  | e => e.message?.getD "invalid type"

/-- The error of a text that is not usable. -/
def Format.error : Format → String → InputError
  | .json, text => .json text
  | .yaml, text => .yaml text
  | .toml, text => .toml text

/-- What is said of a text that is not of its format. -/
def malformed : String := "the text is malformed"

/-- Decode data if there is some. -/
def decodeGiven {σ α : Type} (decode : Decode σ α) : Option σ → Except String α
  | none => .error malformed
  | some s =>
      match decode s with
      | .ok a => .ok a
      | .error e => .error e.description

/-- Read a record from a text. -/
def Format.read {α : Type} (f : Format) (decode : (σ : Type) → [Source σ] → Decode σ α)
    (text : String) : Except InputError α :=
  let result :=
    match f with
    | .json => decodeGiven (decode Json.Value) (Json.read text).toOption
    | .yaml => decodeGiven (decode Yaml.Node) (Yaml.Node.ofText? text)
    | .toml => decodeGiven (decode Toml.Item) (Toml.Item.ofText? text)
  match result with
  | .ok a => .ok a
  | .error e => .error (f.error e)

end FormScaffold.Record
