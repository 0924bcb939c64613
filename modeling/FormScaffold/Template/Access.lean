import FormScaffold.Decimal.Binary64
import FormScaffold.Json.Writer
import FormScaffold.Text.Search

/-!
# Values in templates

How a value is printed, when it counts as true, how a part of it is found by a dotted
path, and how text is made safe for markup.
-/

namespace FormScaffold.Template

open FormScaffold FormScaffold.Json FormScaffold.Text

/-- Printed form of a number: whole doubles have no point. -/
def numberText : Number → String
  | .int n => String.ofList (Decimal.Binary64.integerText n)
  | .float x => String.ofList x.plainText

mutual

/-- Printed form of a value.  Null prints as nothing, and objects do not show what
they hold. -/
def valueText : Value → String
  | .null => ""
  | .bool b => if b then "true" else "false"
  | .number n => numberText n
  | .string s => s
  | .array items => "[" ++ String.intercalate ", " (valueTexts items) ++ "]"
  | .object _ => "[object]"

/-- Printed forms of some values. -/
def valueTexts : List Value → List String
  | [] => []
  | v :: vs => valueText v :: valueTexts vs

end

/-- Nothing, zero and what is empty do not count as true. -/
def isTruthy : Value → Bool
  | .null => false
  | .bool b => b
  | .number (.int n) => n != 0
  | .number (.float x) => !x.isZero
  | .string s => !s.isEmpty
  | .array items => !items.isEmpty
  | .object members => !members.isEmpty

/-- The position that a text names: digits without leading zeros. -/
def position? (s : String) : Option Nat :=
  match s.toList with
  | [] => none
  | ['0'] => some 0
  | '0' :: _ => none
  | cs => if cs.all Char.isDigit then some (Decimal.digitsValue cs) else none

/-- A member of an object or an item of an array. -/
def step? (v : Value) (key : String) : Option Value :=
  match v with
  | .object members => Keyed.get? key members
  | .array items => (position? key).bind fun i => items[i]?
  | _ => none

/-- The part of a value that a path of keys leads to. -/
def follow? (v : Value) (keys : List String) : Option Value := keys.foldlM step? v

/-- Undo the escapes for slashes and tildes in a key. -/
def unescapedKey (cs : List Char) : String :=
  String.ofList (replaceAll ['~', '0'] ['~'] (replaceAll ['~', '1'] ['/'] cs))

/-- The keys of a dotted path.  Points between double quotes belong to a key, and the
quotes do not. -/
def keysFrom (inQuotes : Bool) (key : List Char) : List Char → List String
  | [] => [unescapedKey key.reverse]
  | '"' :: cs => keysFrom (!inQuotes) key cs
  | c :: cs =>
      if c == '.' && !inQuotes then unescapedKey key.reverse :: keysFrom false [] cs
      else keysFrom inQuotes (c :: key) cs

/-- The part of a value at a dotted path; the empty path leads to the value itself. -/
def atPath? (v : Value) (path : List Char) : Option Value :=
  if path.isEmpty then some v else follow? v (keysFrom false [] path)

/-- A path cut at its first point. -/
def splitHead (path : List Char) : List Char × Option (List Char) :=
  match path.dropWhile (· != '.') with
  | _ :: rest => (path.takeWhile (· != '.'), some rest)
  | [] => (path, none)

/-- The part of a map at a dotted path. -/
def atPathIn? (m : Keyed Value) (path : List Char) : Option Value :=
  match splitHead path with
  | (key, none) => Keyed.get? (String.ofList key) m
  | (key, some rest) => (Keyed.get? (unescapedKey key) m).bind fun v => atPath? v rest

/-- A character that is safe in markup. -/
def escapedChar (c : Char) : List Char :=
  match c with
  | '&' => "&amp;".toList
  | '<' => "&lt;".toList
  | '>' => "&gt;".toList
  | '"' => "&quot;".toList
  | '\'' => "&#x27;".toList
  | '/' => "&#x2F;".toList
  | c => [c]

/-- A text that is safe in markup. -/
def escapedText (s : String) : String := String.ofList (s.toList.flatMap escapedChar)

end FormScaffold.Template
