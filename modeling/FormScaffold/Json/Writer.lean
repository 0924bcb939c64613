import FormScaffold.Json.Value

/-!
# Writing JSON

Compact and indented text of a value.  Quotes, backslashes and control characters
are escaped in texts; all other characters stand for themselves.
-/

namespace FormScaffold.Json

/-- Lower-case hexadecimal digit. -/
def hexDigit (n : Nat) : Char :=
  if n < 10 then Char.ofNat (48 + n) else Char.ofNat (87 + n)

/-- The written form of one character of a text. -/
def escapeChar (c : Char) : List Char :=
  match c with
  | '"' => ['\\', '"']
  | '\\' => ['\\', '\\']
  | '\n' => ['\\', 'n']
  | '\r' => ['\\', 'r']
  | '\t' => ['\\', 't']
  | c =>
      if c.toNat == 8 then ['\\', 'b']
      else if c.toNat == 12 then ['\\', 'f']
      else if c.toNat < 32 then
        ['\\', 'u', '0', '0', hexDigit (c.toNat / 16), hexDigit (c.toNat % 16)]
      else [c]

/-- A text in quotes. -/
def quoted (s : String) : List Char :=
  '"' :: (s.toList.flatMap escapeChar ++ ['"'])

/-- The text of a truth value. -/
def boolText (b : Bool) : List Char :=
  if b then ['t', 'r', 'u', 'e'] else ['f', 'a', 'l', 's', 'e']

namespace Value

mutual

/-- Compact text of a value. -/
def compact : Value → List Char
  | .null => ['n', 'u', 'l', 'l']
  | .bool b => boolText b
  | .number n => n.text
  | .string s => quoted s
  | .array items => '[' :: (compactItems items ++ [']'])
  | .object members => '{' :: (compactMembers members ++ ['}'])

/-- Items with commas between them. -/
def compactItems : List Value → List Char
  | [] => []
  | [v] => v.compact
  | v :: vs => v.compact ++ ',' :: compactItems vs

/-- Members with commas between them. -/
def compactMembers : List (String × Value) → List Char
  | [] => []
  | [(k, v)] => quoted k ++ ':' :: v.compact
  | (k, v) :: ms => quoted k ++ ':' :: (v.compact ++ ',' :: compactMembers ms)

end

/-- A line break and the indentation of a depth. -/
def lineBreak (depth : Nat) : List Char := '\n' :: List.replicate (2 * depth) ' '

mutual

/-- Text of a value with each item and member on a line of its own. -/
def indented (depth : Nat) : Value → List Char
  | .array [] => ['[', ']']
  | .array items => '[' :: (indentedItems (depth + 1) items ++ lineBreak depth ++ [']'])
  | .object [] => ['{', '}']
  | .object members => '{' :: (indentedMembers (depth + 1) members ++ lineBreak depth ++ ['}'])
  | v => v.compact

/-- Items on lines of their own. -/
def indentedItems (depth : Nat) : List Value → List Char
  | [] => []
  | [v] => lineBreak depth ++ v.indented depth
  | v :: vs => lineBreak depth ++ v.indented depth ++ ',' :: indentedItems depth vs

/-- Members on lines of their own. -/
def indentedMembers (depth : Nat) : List (String × Value) → List Char
  | [] => []
  | [(k, v)] => lineBreak depth ++ quoted k ++ ':' :: ' ' :: v.indented depth
  | (k, v) :: ms =>
      lineBreak depth ++ quoted k ++ ':' :: ' ' :: (v.indented depth ++ ',' :: indentedMembers depth ms)

end

/-- Compact text. -/
def text (v : Value) : String := String.ofList v.compact

/-- Indented text. -/
def prettyText (v : Value) : String := String.ofList (v.indented 0)

end Value

end FormScaffold.Json
