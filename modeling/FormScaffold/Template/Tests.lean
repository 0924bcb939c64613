import FormScaffold.Template.Access
import FormScaffold.Text.Expression

/-!
# Tests of the template language

A test tells whether a value is of some kind.  It gets the value, if the tested name is
defined, and the arguments in order.
-/

namespace FormScaffold.Template.Tests

open FormScaffold FormScaffold.Json FormScaffold.Text FormScaffold.Decimal

/-- A test: from a value, if there is one, and arguments to a truth value, or to the
text of a failure. -/
abbrev TestFunction := Option Value → List Value → Except String Bool

/-- The start of every message. -/
def tester (name : String) : String := "Tester `" ++ name ++ "` was called "

/-- Refuse more arguments than a test takes. -/
def atMost (name : String) (most given : Nat) : Except String Unit :=
  if given ≤ most then .ok ()
  else if most == 0 then
    .error (tester name ++ "with some args but this test doesn't take args")
  else
    .error (tester name ++ "with " ++ toString given ++ " args, the max number is " ++ toString most)

/-- The value of a defined name. -/
def definedValue (name : String) (v : Option Value) : Except String Value :=
  match v with
  | some v => .ok v
  | none => .error (tester name ++ "on an undefined variable")

/-- A text, where one is wanted. -/
def wantText (name role : String) (v : Option Value) : Except String String :=
  match v with
  | some (.string s) => .ok s
  | _ => .error (tester name ++ role ++ " that isn't a string")

/-- A number as a double. -/
def double? : Value → Option Binary64
  | .number n => some n.toDouble
  | _ => none

/-- A test of the kind of a value, without arguments. -/
def ofKind (name : String) (p : Value → Bool) : TestFunction := fun v args => do
  atMost name 0 args.length
  let v ← definedValue name v
  .ok (p v)

/-- A test of two texts. -/
def ofTexts (name : String) (p : List Char → List Char → Bool) : TestFunction := fun v args => do
  atMost name 1 args.length
  let v ← definedValue name v
  let s ← wantText name "on a variable" (some v)
  let t ← wantText name "with a parameter" args.head?
  .ok (p s.toList t.toList)

/-- The number is not a multiple of two. -/
def isOdd (v : Option Value) : Except String Bool :=
  match v.bind double? with
  | some x => .ok (((x.rem? (Binary64.ofInt 2)).map fun r => !r.isZero).getD true)
  | none => .error "Tester `odd` was called on a variable that isn't a number"

/-- The number is not a multiple of two, as a test. -/
def odd : TestFunction := fun v args => do
  atMost "odd" 0 args.length
  let _ ← definedValue "odd" v
  isOdd v

/-- The number is a multiple of two. -/
def even : TestFunction := fun v args => do
  atMost "even" 0 args.length
  let _ ← definedValue "even" v
  let o ← isOdd v
  .ok (!o)

/-- The number is a multiple of another one. -/
def divisibleBy : TestFunction := fun v args => do
  atMost "divisibleby" 1 args.length
  let v ← definedValue "divisibleby" v
  match double? v, args.head?.bind double? with
  | some x, some y => .ok (((x.rem? y).map fun r => r.isZero).getD false)
  | some _, none => .error (tester "divisibleby" ++ "with a parameter that isn't a number")
  | none, _ => .error (tester "divisibleby" ++ "on a variable that isn't a number")

/-- The text, list or object holds another value. -/
def containing : TestFunction := fun v args => do
  atMost "containing" 1 args.length
  let v ← definedValue "containing" v
  match v with
  | .string s => do
      let t ← wantText "containing" "with a parameter" args.head?
      .ok (occurs t.toList s.toList)
  | .array items => .ok (items.any fun item => item.same (args.headD .null))
  | .object members => do
      let t ← wantText "containing" "with a parameter" args.head?
      .ok (Keyed.contains t members)
  | _ => .error "Tester `containing` can only be used on string, array or map"

/-- The text matches a regular expression somewhere. -/
def matching : TestFunction := fun v args => do
  atMost "matching" 1 args.length
  let v ← definedValue "matching" v
  let s ← wantText "matching" "on a variable" (some v)
  let t ← wantText "matching" "with a parameter" args.head?
  match Expression.ofText? t.toList with
  | some e => .ok (e.occursIn s.toList)
  | none => .error ("Tester `matching`: Invalid regular expression: " ++ t)

/-- All tests, by name. -/
def all : List (String × TestFunction) :=
  [("defined", fun v args => do
      atMost "defined" 0 args.length
      .ok v.isSome),
   ("undefined", fun v args => do
      atMost "undefined" 0 args.length
      .ok v.isNone),
   ("string", ofKind "string" fun v => match v with
      | .string _ => true
      | _ => false),
   ("number", ofKind "number" fun v => match v with
      | .number _ => true
      | _ => false),
   ("iterable", ofKind "iterable" fun v => match v with
      | .array _ | .object _ => true
      | _ => false),
   ("object", ofKind "object" fun v => match v with
      | .object _ => true
      | _ => false),
   ("odd", odd),
   ("even", even),
   ("divisibleby", divisibleBy),
   ("starting_with", ofTexts "starting_with" fun s t => t.isPrefixOf s),
   ("ending_with", ofTexts "ending_with" fun s t => t.isSuffixOf s),
   ("containing", containing),
   ("matching", matching)]

end FormScaffold.Template.Tests
