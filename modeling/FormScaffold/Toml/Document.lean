import FormScaffold.Json.Value
import FormScaffold.Record.Source
import FormScaffold.Toml.Plain
import FormScaffold.Toml.Text

/-!
# TOML documents

A document is a sequence of lines: keys with values, headers of sections, comments and
empty lines.  A key of a section is set in the table of its header.
-/

namespace FormScaffold.Toml

/-- Set the entries of a table in braces, one after the other. -/
def assignAll : List ((List String × String) × Item) → Table → Option Table
  | [], t => some t
  | ((path, key), item) :: rest, t =>
      match t.assign path key item with
      | none => none
      | some t => assignAll rest t

mutual

/-- The tables in a table in braces are closed like it. -/
def closed : Item → Item
  | .table _ entries => .table .inline (closedEntries entries)
  | item => item

/-- Close the tables among the entries of a table. -/
def closedEntries : List (String × Item) → List (String × Item)
  | [] => []
  | (key, item) :: rest => (key, closed item) :: closedEntries rest

end

/-- Arrays and tables in braces stand in one another less deep than this. -/
def nestingLimit : Nat := 80

mutual

/-- A value; the arguments bound the steps and the arrays and tables that it may open
around one another. -/
def value? : Nat → Nat → List Char → Option (Item × List Char)
  | 0, _, _ => none
  | n + 1, room, cs =>
      match cs, room with
      | '"' :: _, _ | '\'' :: _, _ => (text? cs).map fun (s, rest) => (.text s, rest)
      | '[' :: rest, room + 1 =>
          (items? n room rest).map fun (items, rest) => (.array items, rest)
      | '{' :: rest, room + 1 =>
          match entries? n room true (skipBlanks rest) with
          | none => none
          | some (entries, rest) =>
              (assignAll entries (.new .inline)).map fun t =>
                (closed (.table .inline t.entries), rest)
      | _, _ =>
          let (word, rest) := wordAt cs
          (ofWord? word).map fun item => (item, rest)

/-- The rest of an array. -/
def items? : Nat → Nat → List Char → Option (List Item × List Char)
  | 0, _, _ => none
  | n + 1, room, cs =>
      match skipGap cs.length cs with
      | ']' :: rest => some ([], rest)
      | start =>
          match value? n room start with
          | none => none
          | some (item, rest) =>
              match skipGap rest.length rest with
              | ',' :: rest =>
                  (items? n room rest).map fun (more, rest) => (item :: more, rest)
              | ']' :: rest => some ([item], rest)
              | _ => none

/-- The rest of a table in braces, which stands on one line. -/
def entries? : Nat → Nat → (first : Bool) → List Char →
    Option (List ((List String × String) × Item) × List Char)
  | 0, _, _, _ => none
  | n + 1, room, first, cs =>
      match cs, first with
      | '}' :: rest, true => some ([], rest)
      | _, _ =>
          match dottedKey? keyLimit cs with
          | some (key, '=' :: rest) =>
              match value? n room (skipBlanks rest) with
              | none => none
              | some (item, rest) =>
                  match skipBlanks rest with
                  | ',' :: rest =>
                      (entries? n room false (skipBlanks rest)).map fun (more, rest) =>
                        ((key, item) :: more, rest)
                  | '}' :: rest => some ([(key, item)], rest)
                  | _ => none
          | _ => none

end

/-- What a line of a document says. -/
inductive Line where
  | empty
  | opens (path : List String) (key : String)
  | opensFurther (path : List String) (key : String)
  | entry (path : List String) (key : String) (item : Item)

/-- The line at the start of a text, up to blanks and a comment at its end. -/
def line? (cs : List Char) : Option (Line × List Char) :=
  let cs := skipBlanks cs
  match cs with
  | [] => some (.empty, [])
  | '#' :: _ | '\n' :: _ | '\r' :: _ => some (.empty, cs)
  | '[' :: '[' :: rest =>
      match dottedKey? keyLimit rest with
      | some ((path, key), ']' :: ']' :: rest) => some (.opensFurther path key, rest)
      | _ => none
  | '[' :: rest =>
      match dottedKey? keyLimit rest with
      | some ((path, key), ']' :: rest) => some (.opens path key, rest)
      | _ => none
  | _ =>
      match dottedKey? keyLimit cs with
      | some ((path, key), '=' :: rest) =>
          (value? (2 * cs.length + 2) (nestingLimit - 1) (skipBlanks rest)).map fun (item, rest) =>
            (.entry path key item, rest)
      | _ => none

/-- What a line does to the document; the first argument is the header in force. -/
def Line.apply (header : List String) (t : Table) : Line → Option (List String × Table)
  | .empty => some (header, t)
  | .opens path key => (t.openTable path key).map fun t => (path ++ [key], t)
  | .opensFurther path key => (t.openFurther path key).map fun t => (path ++ [key], t)
  | .entry path key item =>
      (t.within false (Table.assign path key item) header).map fun t => (header, t)

/-- Read the lines of a document, with a bound on their number. -/
def readLines : Nat → List String → Table → List Char → Option Table
  | 0, _, _, _ => none
  | n + 1, header, t, cs =>
      match line? cs with
      | none => none
      | some (line, rest) =>
          match line.apply header t with
          | none => none
          | some (header, t) =>
              match skipComment (skipBlanks rest) with
              | [] => some t
              | rest =>
                  match lineBreak? rest with
                  | some rest => readLines n header t rest
                  | none => none

namespace Item

/-- The table of a document. -/
def ofText? (text : String) : Option Item :=
  let cs := text.toList
  let body := if cs.head? == some (Char.ofNat 0xFEFF) then cs.drop 1 else cs
  (readLines (body.length + 1) [] (.new .header) body).map fun t => .table .header t.entries

end Item

/-!
## TOML as a source of records

A record is a table.  Nothing stands for an absent value but a missing key.
-/

open FormScaffold.Record

namespace Item

mutual

/-- The free value of an item. -/
def toJson : Item → Json.Value
  | .text s => .string s
  | .integer n => .ofInt n
  | .float (some x) => .number (.float x)
  | .float none => .null
  | .bool b => .bool b
  | .moment s => .string s
  | .array items => .array (itemsToJson items)
  | .table _ entries => .record (entriesToJson entries)
  | .tables each => .array (tablesToJson each)

/-- The free values of the items of an array. -/
def itemsToJson : List Item → List Json.Value
  | [] => []
  | item :: rest => toJson item :: itemsToJson rest

/-- The free values of the entries of a table. -/
def entriesToJson : List (String × Item) → List (String × Json.Value)
  | [] => []
  | (key, item) :: rest => (key, toJson item) :: entriesToJson rest

/-- The free values of a list of tables. -/
def tablesToJson : List (List (String × Item)) → List Json.Value
  | [] => []
  | entries :: rest => .record (entriesToJson entries) :: tablesToJson rest

end

/-- The items of an array or of a list of tables. -/
def items? : Item → Option (List Item)
  | .array items => some items
  | .tables each => some (each.map (.table .header))
  | _ => none

/-- The entries of a table. -/
def entries? : Item → Option (List (String × Item))
  | .table _ entries => some entries
  | _ => none

instance : Source Item where
  isNone _ := false
  text? item := match item with
    | .text s => some s
    | _ => none
  bool? item := match item with
    | .bool b => some b
    | _ => none
  natural? item := match item with
    | .integer n => if 0 ≤ n then some n.toNat else none
    | _ => none
  items? := items?
  entries? := entries?
  shape? item := match entries? item, items? item with
    | some entries, _ => some (.named entries)
    | none, some items => some (.positional items)
    | none, none => none
  variant? item := match item with
    | .text s => some (s, true)
    | _ => none
  value? item := some item.toJson

end Item

end FormScaffold.Toml
