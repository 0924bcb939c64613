import FormScaffold.Template.Access

/-!
# Arguments of filters

What a filter wants its value or an argument to be, and what it says of one that is
something else.
-/

namespace FormScaffold.Template.Filters

open FormScaffold FormScaffold.Json FormScaffold.Decimal

/-- A filter: from a value and named arguments to a value, or to the text of a failure. -/
abbrev FilterFunction := Value → Keyed Value → Except String Value

/-- What a filter says of a value of the wrong kind. -/
def wrongValue (filter : String) (given : Value) (wanted : String) : String :=
  "Filter `" ++ filter ++ "` was called on an incorrect value: got `" ++ given.text
    ++ "` but expected a " ++ wanted

/-- What a filter says of an argument of the wrong kind. -/
def wrongArgument (filter arg : String) (given : Value) (wanted : String) : String :=
  "Filter `" ++ filter ++ "` received an incorrect type for arg `" ++ arg ++ "`: got `"
    ++ given.text ++ "` but expected a " ++ wanted

/-- A kind of value, by its name in messages. -/
structure Wanted (α : Type) where
  name : String
  read? : Value → Option α

/-- A text. -/
def aText : Wanted String :=
  ⟨"String", fun v => match v with
    | .string s => some s
    | _ => none⟩

/-- A truth value. -/
def aBool : Wanted Bool :=
  ⟨"bool", fun v => match v with
    | .bool b => some b
    | _ => none⟩

/-- A list. -/
def aList : Wanted (List Value) :=
  ⟨"Vec<Value>", fun v => match v with
    | .array items => some items
    | _ => none⟩

/-- An integer between two bounds, the second excluded. -/
def anInteger (name : String) (low high : Int) : Wanted Int :=
  ⟨name, fun v => match v with
    | .number (.int n) => if low ≤ n && n < high then some n else none
    | _ => none⟩

/-- A natural number of 64 bits. -/
def aCount : Wanted Int := anInteger "usize" 0 (Nat.pow 2 64)

/-- An integer of 64 bits. -/
def aLongInteger : Wanted Int := anInteger "i64" (-(Nat.pow 2 63 : Int)) (Nat.pow 2 63)

/-- A number, as a double. -/
def aDouble : Wanted Binary64 :=
  ⟨"f64", fun v => match v with
    | .number n => some n.toDouble
    | _ => none⟩

/-- The value that a filter is used on. -/
def valueAs {α : Type} (filter : String) (w : Wanted α) (v : Value) : Except String α :=
  match w.read? v with
  | some a => .ok a
  | none => .error (wrongValue filter v w.name)

/-- An argument, if it is given. -/
def optionalArg {α : Type} (filter arg : String) (w : Wanted α) (args : Keyed Value) :
    Except String (Option α) :=
  match Keyed.get? arg args with
  | none => .ok none
  | some v =>
      match w.read? v with
      | some a => .ok (some a)
      | none => .error (wrongArgument filter arg v w.name)

/-- An argument, or a value to use without it. -/
def argOr {α : Type} (filter arg : String) (w : Wanted α) (default : α) (args : Keyed Value) :
    Except String α := do
  let given ← optionalArg filter arg w args
  .ok (given.getD default)

/-- An argument that has to be given; the last text is the failure without it. -/
def argOrFail {α : Type} (filter arg : String) (w : Wanted α) (missing : String)
    (args : Keyed Value) : Except String α := do
  match ← optionalArg filter arg w args with
  | some a => .ok a
  | none => .error missing

/-- The usual failure without an argument. -/
def expectedArg (filter arg : String) : String :=
  "Filter `" ++ filter ++ "` expected an arg called `" ++ arg ++ "`"

end FormScaffold.Template.Filters
