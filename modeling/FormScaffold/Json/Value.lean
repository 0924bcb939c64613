import FormScaffold.Decimal.Shortest
import FormScaffold.Keyed

/-!
# JSON values

A value is null, a truth value, a number, a text, an array or an object.  Numbers
are integers of the 64-bit ranges or doubles.  A reader keeps the members of an
object as they were written; `normalized` puts them in order of their keys and lets
the last of equal keys count.
-/

namespace FormScaffold.Json

open FormScaffold.Decimal

/-- A JSON number. -/
inductive Number where
  | int (n : Int)
  | float (x : Binary64)
  deriving DecidableEq, Repr

namespace Number

/-- The number as a double. -/
def toDouble : Number → Binary64
  | .int n => Binary64.ofInt n
  | .float x => x

/-- Equality of numbers: an integer never equals a double. -/
def same : Number → Number → Bool
  | .int m, .int n => m == n
  | .float x, .float y => x.eqValue y
  | _, _ => false

/-- JSON text of a number. -/
def text : Number → List Char
  | .int n => Binary64.integerText n
  | .float x => x.jsonText

end Number

/-- A JSON value. -/
inductive Value where
  | null
  | bool (b : Bool)
  | number (n : Number)
  | string (s : String)
  | array (items : List Value)
  | object (members : List (String × Value))
  deriving Repr

namespace Value

instance : Inhabited Value := ⟨.null⟩

mutual

/-- Equality of values, member by member. -/
def same : Value → Value → Bool
  | .null, .null => true
  | .bool a, .bool b => a == b
  | .number m, .number n => m.same n
  | .string s, .string t => s == t
  | .array xs, .array ys => sameItems xs ys
  | .object ms, .object ns => sameMembers ms ns
  | _, _ => false

/-- Equality of lists of values. -/
def sameItems : List Value → List Value → Bool
  | [], [] => true
  | x :: xs, y :: ys => same x y && sameItems xs ys
  | _, _ => false

/-- Equality of lists of members. -/
def sameMembers : List (String × Value) → List (String × Value) → Bool
  | [], [] => true
  | (k, x) :: xs, (l, y) :: ys => k == l && same x y && sameMembers xs ys
  | _, _ => false

end

mutual

/-- Members in key order, the last of equal keys counting, at every depth. -/
def normalized : Value → Value
  | .array items => .array (normalizedItems items)
  | .object members => .object (Keyed.ofPairs (normalizedMembers members))
  | v => v

/-- Normalize every item. -/
def normalizedItems : List Value → List Value
  | [] => []
  | v :: vs => v.normalized :: normalizedItems vs

/-- Normalize the value of every member. -/
def normalizedMembers : List (String × Value) → List (String × Value)
  | [] => []
  | (k, v) :: ms => (k, v.normalized) :: normalizedMembers ms

end

/-- An integer value. -/
def ofInt (n : Int) : Value := .number (.int n)

/-- A natural number as a value. -/
def ofNat (n : Nat) : Value := .number (.int n)

/-- The value of an option; none is null. -/
def ofOption {α : Type} (f : α → Value) : Option α → Value
  | none => .null
  | some a => f a

/-- A list of texts as a value. -/
def ofStrings (ss : List String) : Value := .array (ss.map .string)

/-- A map of texts as a value. -/
def ofStringMap (m : Keyed String) : Value := .object (m.mapValues .string)

/-- An object from members in any order. -/
def record (members : List (String × Value)) : Value := .object (Keyed.ofPairs members)

/-- The member of an object. -/
def member? (key : String) : Value → Option Value
  | .object ms => Keyed.get? key ms
  | _ => none

end Value

end FormScaffold.Json
