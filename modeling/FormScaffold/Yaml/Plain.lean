import FormScaffold.Decimal.Binary64
import FormScaffold.Json.Value

/-!
# What plain scalars mean

A plain scalar may stand for null, a truth value, an integer or a number with a
fraction; else it is a text.  Digits after a leading zero are a text.
-/

namespace FormScaffold.Yaml

open FormScaffold.Decimal

/-- The scalar stands for null. -/
def isNullWord (text : String) : Bool := ["null", "Null", "NULL", "~"].contains text

/-- The truth value of a scalar. -/
def truth? (text : String) : Option Bool :=
  if ["true", "True", "TRUE"].contains text then some true
  else if ["false", "False", "FALSE"].contains text then some false
  else none

/-- The value of a digit. -/
def digitValue? (c : Char) : Option Nat :=
  let n := c.toNat
  if '0' ≤ c && c ≤ '9' then some (n - 48)
  else if 'a' ≤ c && c ≤ 'z' then some (n - 87)
  else if 'A' ≤ c && c ≤ 'Z' then some (n - 55)
  else none

/-- The value of a text of digits below a base. -/
def valueInBase? (base : Nat) (cs : List Char) : Option Nat :=
  if cs.isEmpty then none
  else
    cs.foldlM (fun n c =>
      (digitValue? c).bind fun d => if d < base then some (n * base + d) else none) 0

/-- Digits of which the first of several is a zero. -/
def hasLeadingZero (cs : List Char) : Bool :=
  match (takeSign cs).2 with
  | '0' :: c :: rest => (c :: rest).all Char.isDigit
  | _ => false

/-- The size of an integer without a sign: decimal, or in the base that its start tells. -/
def magnitude? (cs : List Char) : Option Nat :=
  match cs with
  | '0' :: 'x' :: ds => valueInBase? 16 ds
  | '0' :: 'o' :: ds => valueInBase? 8 ds
  | '0' :: 'b' :: ds => valueInBase? 2 ds
  | _ => if hasLeadingZero cs then none else valueInBase? 10 cs

/-- The integer that a scalar stands for. -/
def integer? (text : String) : Option Int :=
  match text.toList with
  | '-' :: ds => (magnitude? ds).map fun n => -(n : Int)
  | '+' :: ds => (magnitude? ds).map fun n => (n : Int)
  | ds => (magnitude? ds).map fun n => (n : Int)

/-- The natural number that a scalar stands for. -/
def natural? (text : String) : Option Nat :=
  match text.toList with
  | '+' :: ds => magnitude? ds
  | ds => magnitude? ds

/-- A scalar for an infinite number or for no number. -/
def isEndlessWord (text : String) : Bool :=
  [".inf", ".Inf", ".INF", "+.inf", "+.Inf", "+.INF", "-.inf", "-.Inf", "-.INF", ".nan", ".NaN",
    ".NAN"].contains text

/-- The value of a scalar with a fraction, an exponent or very many digits. -/
def fraction? (text : String) : Option Json.Value :=
  if isEndlessWord text then some .null
  else if hasLeadingZero text.toList then none
  else
    match floatOfText? text.toList with
    | some (some x) => some (.number (.float x))
    | _ => none

/-- The value of an integer.  Beyond 64 bits it has none. -/
def integerValue? (n : Int) : Option Json.Value :=
  if -(Nat.pow 2 63 : Int) ≤ n && n < Nat.pow 2 64 then some (.ofInt n) else none

/-- Integers beyond this size are read as numbers with a fraction. -/
def isHuge (n : Int) : Bool := !(-(Nat.pow 2 127 : Int) ≤ n && n < Nat.pow 2 128)

/-- The value of a plain scalar. -/
def plainValue? (text : String) : Option Json.Value :=
  if text == "" || isNullWord text then some .null
  else
    match truth? text, integer? text with
    | some b, _ => some (.bool b)
    | none, some n =>
        if isHuge n then some ((fraction? text).getD (.string text)) else integerValue? n
    | none, none => some ((fraction? text).getD (.string text))

/-- The value of a scalar whose tag tells its kind. -/
def taggedValue? (tag text : String) : Option Json.Value :=
  if tag == "!!null" then if isNullWord text then some .null else none
  else if tag == "!!bool" then (truth? text).map .bool
  else if tag == "!!int" then (integer? text).bind integerValue?
  else if tag == "!!float" then fraction? text
  else if "!!".toList.isPrefixOf tag.toList then some (.string text)
  else none

end FormScaffold.Yaml
