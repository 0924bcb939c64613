import FormScaffold.Failure
import FormScaffold.Json.Value
import FormScaffold.Record.Fields
import FormScaffold.Text.Blank
import FormScaffold.Text.Casing

/-!
# Form definitions

A form is an ordered list of fields.  A usable form has fields, each with a name and
a type, and no two names that differ only in case or surrounding blanks.
-/

namespace FormScaffold

open Record

/-- A choice offered by a field. -/
structure FieldChoice where
  value : String
  label : Option String
  deriving DecidableEq, Repr

/-- One field of a form. -/
structure FormField where
  name : String
  fieldType : String
  required : Bool
  label : Option String
  placeholder : Option String
  defaultValue : Option Json.Value
  maxLength : Option Nat
  minLength : Option Nat
  pattern : Option String
  choices : List FieldChoice
  deriving Repr

/-- A form: its name, what it is for, and its fields in order. -/
structure FormDefinition where
  name : Option String
  description : Option String
  fields : List FormField
  deriving Repr

/-- What makes a form unusable. -/
inductive FormProblem where
  | noFields
  | emptyName (index : Nat)
  | emptyType (name : String)
  | duplicateName (name : String)
  deriving DecidableEq, Repr

/-- The wording of a problem. -/
def FormProblem.message : FormProblem → String
  | noFields => "Form definition has no fields"
  | emptyName index => "Field #" ++ toString index ++ " has an empty name"
  | emptyType name => "Field '" ++ name ++ "' has an empty type"
  | duplicateName name => "Duplicate field name '" ++ name ++ "'"

namespace FormField

/-- The name of a field without surrounding blanks. -/
def trimmedName (f : FormField) : String := Text.trimmed f.name

/-- The name by which fields are told apart. -/
def key (f : FormField) : String := Text.lowercase f.trimmedName

/-- The problem of the field at `index` after fields with the keys `seen`. -/
def problem? (f : FormField) (index : Nat) (seen : List String) : Option FormProblem :=
  if Text.isBlankText f.name then some (.emptyName index)
  else if Text.isBlankText f.fieldType then some (.emptyType f.trimmedName)
  else if seen.contains f.key then some (.duplicateName f.trimmedName)
  else none

end FormField

namespace FormDefinition

/-- The first problem among fields, the first of which stands at `index` after
fields with the keys `seen`. -/
def firstProblem? (index : Nat) (seen : List String) : List FormField → Option FormProblem
  | [] => none
  | f :: rest =>
      match f.problem? index seen with
      | some p => some p
      | none => firstProblem? (index + 1) (f.key :: seen) rest

/-- The first problem of a form. -/
def problem? (d : FormDefinition) : Option FormProblem :=
  if d.fields.isEmpty then some .noFields else firstProblem? 0 [] d.fields

/-- Accept a form without problems. -/
def validate (d : FormDefinition) : Except InputError Unit :=
  match d.problem? with
  | some p => .error (.form p.message)
  | none => .ok ()

end FormDefinition

section Records

variable {σ : Type} [Source σ]

/-- Read a choice. -/
def FieldChoice.decode : Decode σ FieldChoice :=
  Fields.decode (FieldChoice.mk <$> .required "value" text
    <*> .defaulted "label" [] none (optionOf text))

/-- Read a field. -/
def FormField.decode : Decode σ FormField :=
  Fields.decode (FormField.mk <$> .required "name" text
    <*> .required "type" text
    <*> .defaulted "required" [] false bool
    <*> .defaulted "label" [] none (optionOf text)
    <*> .defaulted "placeholder" [] none (optionOf text)
    <*> .defaulted "defaultValue" ["default"] none (optionOf value)
    <*> .defaulted "maxLength" [] none (optionOf word32)
    <*> .defaulted "minLength" [] none (optionOf word32)
    <*> .defaulted "pattern" [] none (optionOf text)
    <*> .defaulted "options" [] [] (listOf FieldChoice.decode))

/-- Read a form. -/
def FormDefinition.decode : Decode σ FormDefinition :=
  Fields.decode (FormDefinition.mk <$> .defaulted "name" [] none (optionOf text)
    <*> .defaulted "description" [] none (optionOf text)
    <*> .required "fields" (listOf FormField.decode))

end Records

/-- The data of a choice. -/
def FieldChoice.toJson (c : FieldChoice) : Json.Value :=
  .object [("value", .string c.value), ("label", .ofOption .string c.label)]

/-- The data of a field. -/
def FormField.toJson (f : FormField) : Json.Value :=
  .object
    [("name", .string f.name), ("type", .string f.fieldType), ("required", .bool f.required),
     ("label", .ofOption .string f.label), ("placeholder", .ofOption .string f.placeholder),
     ("defaultValue", .ofOption id f.defaultValue), ("maxLength", .ofOption .ofNat f.maxLength),
     ("minLength", .ofOption .ofNat f.minLength), ("pattern", .ofOption .string f.pattern),
     ("options", .array (f.choices.map FieldChoice.toJson))]

/-- The data of a form. -/
def FormDefinition.toJson (d : FormDefinition) : Json.Value :=
  .object
    [("name", .ofOption .string d.name), ("description", .ofOption .string d.description),
     ("fields", .array (d.fields.map FormField.toJson))]

end FormScaffold
