import FormScaffold.Json.Value
import FormScaffold.Record.Source

/-!
# JSON as a source of records

A record is an object, or an array of its fields in order.  A choice is its name, or
an object that maps its name to null.
-/

namespace FormScaffold.Json

open FormScaffold.Record

namespace Value

/-- The name of a choice. -/
def variantName? : Value → Option (String × Bool)
  | .string s => some (s, true)
  | .object [(k, .null)] => some (k, true)
  | .object [(k, _)] => some (k, false)
  | _ => none

instance : Source Value where
  isNone v := match v with
    | .null => true
    | _ => false
  text? v := match v with
    | .string s => some s
    | _ => none
  bool? v := match v with
    | .bool b => some b
    | _ => none
  natural? v := match v with
    | .number (.int n) => if 0 ≤ n then some n.toNat else none
    | _ => none
  items? v := match v with
    | .array items => some items
    | _ => none
  entries? v := match v with
    | .object members => some members
    | _ => none
  shape? v := match v with
    | .object members => some (.named members)
    | .array items => some (.positional items)
    | _ => none
  variant? := variantName?
  value? v := some v.normalized

end Value

end FormScaffold.Json
