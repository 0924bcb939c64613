import FormScaffold.Calendar.Pattern
import FormScaffold.Template.Filters.OfList
import FormScaffold.Template.Filters.OfNumber

/-!
# The filters of the template language

Filters on values of several kinds, and the table of all filters.
-/

namespace FormScaffold.Template.Filters

open FormScaffold FormScaffold.Json FormScaffold.Calendar

/-- The number of items, members or characters. -/
def length : FilterFunction := fun v _ =>
  match v with
  | .array items => .ok (.ofNat items.length)
  | .object members => .ok (.ofNat members.length)
  | .string s => .ok (.ofNat s.length)
  | _ =>
      .error "Filter `length` was used on a value that isn't an array, an object, or a string."

/-- Items or characters in the opposite order. -/
def reverse : FilterFunction := fun v _ =>
  match v with
  | .array items => .ok (.array items.reverse)
  | .string s => .ok (.string (String.ofList s.toList.reverse))
  | _ =>
      .error ("Filter `reverse` received an incorrect type for arg `value`: got `" ++ v.text
        ++ "` but expected Array|String")

/-- JSON text of a value. -/
def jsonEncode : FilterFunction := fun v args =>
  match Keyed.get? "pretty" args with
  | some (.bool true) => .ok (.string v.prettyText)
  | _ => .ok (.string v.text)

/-- Printed form of a value. -/
def asText : FilterFunction := fun v _ => .ok (.string (valueText v))

/-- A member of an object. -/
def get : FilterFunction := fun v args => do
  let key ← argOrFail "get" "key" aText "The `get` filter has to have an `key` argument" args
  match v with
  | .object members =>
      match Keyed.get? key members, Keyed.get? "default" args with
      | some part, _ => .ok part
      | none, some default => .ok default
      | none, none => .error ("Filter `get` tried to get key `" ++ key ++ "` but it wasn't found")
  | _ => .error "Filter `get` was used on a value that isn't an object"

/-- Names of universal time. -/
def universalZones : List String :=
  ["UTC", "Etc/UTC", "Etc/UCT", "UCT", "Zulu", "Etc/Zulu", "Universal", "Etc/Universal", "GMT",
    "Etc/GMT", "Greenwich", "Etc/Greenwich"]

/-- The reading of an instant at an offset. -/
def zonedAt (t : Instant) (offset : Int) : ZonedMoment :=
  let zone := String.ofList ((NameField.offsetWithColon).text ⟨t.moment, offset, "", t.seconds⟩)
  ⟨(Instant.mk (t.seconds + offset) t.nanos).moment, offset, zone, t.seconds⟩

/-- The date and time that a value denotes: seconds since 1970, a timestamp, or a date. -/
def zonedOf (v : Value) (inZone : Bool) : Except String ZonedMoment :=
  match v with
  | .number (.int n) => .ok (.universal ⟨n, 0⟩)
  | .number n =>
      .error ("Filter `date` was invoked on a float: " ++ String.ofList n.text)
  | .string s =>
      if s.toList.contains 'T' then
        match Instant.withOffset? s, Instant.ofLocalText? s with
        | some (t, offset), _ => .ok (if inZone then .universal t else zonedAt t offset)
        | none, some t => .ok (.universal t)
        | none, none =>
            .error ("Error parsing `" ++ String.ofList (quoted s)
              ++ "` as rfc3339 date or naive datetime")
      else
        match Instant.ofDateText? s with
        | some t => .ok (.universal t)
        | none => .error ("Error parsing `" ++ String.ofList (quoted s) ++ "` as YYYY-MM-DD date")
  | v =>
      .error ("Filter `date` received an incorrect type for arg `value`: got `" ++ v.text
        ++ "` but expected i64|u64|String")

/-- A date and time in the form of a pattern. -/
def date : FilterFunction := fun v args => do
  let format ← argOr "date" "format" aText "%Y-%m-%d" args
  match pattern? format with
  | none => .error ("Invalid date format `" ++ format ++ "`")
  | some parts =>
      let zone ← optionalArg "date" "timezone" aText args
      let inZone ← match zone with
        | none => .ok false
        | some name =>
            if universalZones.contains name then .ok true
            else .error ("Error parsing `" ++ name ++ "` as a timezone")
      let z ← zonedOf v inZone
      .ok (.string (z.format parts))

/-- All filters, by name. -/
def all : List (String × FilterFunction) :=
  textFilters ++ listFilters ++ numberFilters ++
    [("length", length), ("reverse", reverse), ("json_encode", jsonEncode), ("as_str", asText),
     ("get", get), ("date", date)]

end FormScaffold.Template.Filters
