import FormScaffold.Json.Value
import FormScaffold.Text.Blank
import FormScaffold.Text.Casing

/-!
# Types of form fields

A table maps each logical type of a form field to the type of an object's property,
the type of a database column and the type of a frontend value.  Logical types are
looked up without regard to case and surrounding blanks; an unknown one counts as a
short text.
-/

namespace FormScaffold

/-- The type of a property of an object. -/
inductive PropertyType where
  | string
  | int
  | decimal
  | date
  | dateTime
  | timeSpan
  | bool
  deriving DecidableEq, Repr

namespace PropertyType

/-- The name of a property type. -/
def name : PropertyType → String
  | string => "string"
  | int => "int"
  | decimal => "decimal"
  | date => "DateOnly"
  | dateTime => "DateTime"
  | timeSpan => "TimeSpan"
  | bool => "bool"

/-- Values of the type may be absent without a mark on the type. -/
def isReference : PropertyType → Bool
  | string => true
  | _ => false

end PropertyType

/-- How the type of a column is made. -/
inductive ColumnType where
  | sizedText
  | fixedText (length : Nat)
  | unboundedText
  | literal (name : String)
  deriving DecidableEq, Repr

/-- Length of a text column when the field sets none. -/
def defaultTextLength : Nat := 255

/-- A text column of a length. -/
def textColumn (length : String) : String := "NVARCHAR(" ++ length ++ ")"

/-- The name of a column's type for a field with a given longest value. -/
def ColumnType.name (maxLength : Option Nat) : ColumnType → String
  | sizedText =>
      match maxLength with
      | some (n + 1) => textColumn (toString (n + 1))
      | _ => textColumn (toString defaultTextLength)
  | fixedText length => textColumn (toString length)
  | unboundedText => textColumn "MAX"
  | literal name => name

/-- One row of the table of types. -/
structure TypeRule where
  logicalTypes : List String
  property : PropertyType
  column : ColumnType
  frontend : String
  deriving DecidableEq, Repr

/-- The table of types. -/
def typeRules : List TypeRule :=
  [⟨["text", "email", "url", "tel"], .string, .sizedText, "string"⟩,
   ⟨["textarea"], .string, .unboundedText, "string"⟩,
   ⟨["number"], .int, .literal "INT", "number"⟩,
   ⟨["decimal", "currency"], .decimal, .literal "DECIMAL(18,2)", "number"⟩,
   ⟨["date"], .date, .literal "DATE", "Date"⟩,
   ⟨["datetime"], .dateTime, .literal "DATETIME2", "Date"⟩,
   ⟨["time"], .timeSpan, .literal "TIME", "string"⟩,
   ⟨["boolean", "checkbox"], .bool, .literal "BIT", "boolean"⟩,
   ⟨["select", "radio"], .string, .fixedText 100, "string"⟩,
   ⟨["file"], .string, .fixedText 500, "File"⟩]

/-- The row for types that the table does not hold. -/
def fallbackRule : TypeRule := ⟨[], .string, .fixedText defaultTextLength, "string"⟩

/-- The name under which a logical type is looked up. -/
def typeTag (logicalType : String) : String :=
  String.ofList (Text.lower (Text.trim logicalType.toList))

/-- The row of a logical type. -/
def typeRule? (logicalType : String) : Option TypeRule :=
  typeRules.find? fun rule => rule.logicalTypes.contains (typeTag logicalType)

/-- The types that one field has in the generated code. -/
structure TypeMapping where
  objectType : String
  columnType : String
  frontendType : String
  deriving DecidableEq, Repr

/-- The data of types, by name. -/
def TypeMapping.members (m : TypeMapping) : List (String × Json.Value) :=
  [("object_type", .string m.objectType), ("column_type", .string m.columnType),
   ("frontend_type", .string m.frontendType)]

/-- The types that a row gives to a field. -/
def TypeRule.mapping (rule : TypeRule) (required : Bool) (maxLength : Option Nat) : TypeMapping :=
  ⟨if required || rule.property.isReference then rule.property.name else rule.property.name ++ "?",
   rule.column.name maxLength, rule.frontend⟩

/-- The types of a field in the generated code. -/
def mapFieldType (logicalType : String) (required : Bool) (maxLength : Option Nat) : TypeMapping :=
  ((typeRule? logicalType).getD fallbackRule).mapping required maxLength

end FormScaffold
