import FormScaffold.Record.Source
import FormScaffold.Yaml.Flow
import FormScaffold.Yaml.Node
import FormScaffold.Yaml.Plain

/-!
# YAML documents

Block nodes are told apart by the columns at which they start.  The entries of a block
sequence or mapping start at one column; what stands deeper belongs to them.  A text
holds one document.
-/

namespace FormScaffold.Yaml

/-- Longest text of a key that is not announced. -/
def keyLimit : Nat := 1024

/-- A key on one line, and its colon. -/
def key? (n : Nat) (c : Cursor) : Option (Node × Cursor) :=
  match marks? false c with
  | none => none
  | some (marks, here) =>
      let read : Option (Node × Cursor) :=
        match here.rest with
        | ':' :: _ => some (Node.void, here)
        | '*' :: _ => reference? here
        | '"' :: _ | '\'' :: _ => quotedNode? here
        | '[' :: _ | '{' :: _ => flowNode? n here
        | _ => (plainKey? false here).map fun (text, c) => (Node.scalar true none text, c)
      match read with
      | none => none
      | some (node, after) =>
          let next := after.skipBlanks
          match next.rest with
          | ':' :: rest =>
              if !atBlank rest || c.breaksBefore next || keyLimit < c.rest.length - next.rest.length
              then none
              else some (marks.on node, next.step)
          | _ => none

/-- Where the entry after one that ends at the cursor starts, in a collection at a
column.  None is a fault, and no place the end of the collection. -/
def nextEntry? (col : Nat) (c : Cursor) : Option (Option Cursor) :=
  let gap := c.gap
  let next := gap.cursor
  if next.atEnd then some none
  else if !(gap.crossed || c.col == 0) then none
  else if next.col < col then some none
  else if gap.tabbed || col < next.col then none
  else some (some next)

/-- A scalar, a flow node or a reference in a block node. -/
def blockLeaf? (n least : Nat) (c : Cursor) : Option (Node × Cursor) :=
  match c.rest with
  | '[' :: _ | '{' :: _ => flowNode? n c
  | '*' :: _ => reference? c
  | '"' :: _ | '\'' :: _ => quotedNode? c
  | '|' :: _ | '>' :: _ =>
      (blockScalar? least c).map fun (text, c) => (.scalar false none text, c)
  | _ => (plain? false least c).map fun (text, c) => (.scalar true none text, c)

mutual

/-- A block node whose lines start at a least column, with a bound on the steps.  An
entry of a mapping may be a sequence at the column of the mapping, just left of the least
one.  A collection starts on a new line, or on the line of the cursor where this is
allowed. -/
def blockNode? : Nat → (least : Nat) → (inMapping sameLine : Bool) → Cursor → Option (Node × Cursor)
  | 0, _, _, _, _ => none
  | n + 1, least, inMapping, sameLine, c =>
      let gap := c.gap
      let here := gap.cursor
      let fresh := gap.crossed || sameLine
      let tabbed := gap.tabbed || (sameLine && (c.rest.takeWhile isBlank).contains '\t')
      if here.atEnd then some (.void, c)
      else if gap.crossed && here.col < least then
        if inMapping && here.col + 1 == least && here.atDash then
          if gap.tabbed then none
          else (blockItems? n here.col true here).map fun (items, c) => (.sequence items, c)
        else some (.void, c)
      else if fresh && tabbed then none
      else if fresh && here.atDash then
        (blockItems? n here.col false here).map fun (items, c) => (.sequence items, c)
      else if fresh && (key? n here).isSome then
        (blockEntries? n here.col here).map fun (entries, c) => (.mapping entries, c)
      else
        match marks? false here with
        | none => none
        | some (marks, after) =>
            if marks.isEmpty then blockLeaf? n least here
            else
              (blockNode? n least inMapping false after).map fun (node, c) => (marks.on node, c)

/-- The entries of a block sequence from a dash on.  One that shares its column with a
mapping ends at the next key of the mapping. -/
def blockItems? : Nat → (col : Nat) → (inMapping : Bool) → Cursor → Option (List Node × Cursor)
  | 0, _, _, _ => none
  | n + 1, col, inMapping, here =>
      match blockNode? n (col + 1) false true here.step with
      | none => none
      | some (item, c) =>
          match nextEntry? col c with
          | none => none
          | some none => some ([item], c)
          | some (some next) =>
              if next.atDash then
                (blockItems? n col inMapping next).map fun (more, c) => (item :: more, c)
              else if inMapping then some ([item], c)
              else none

/-- The entries of a block mapping from a key on. -/
def blockEntries? : Nat → (col : Nat) → Cursor → Option (List (Node × Node) × Cursor)
  | 0, _, _ => none
  | n + 1, col, here =>
      match key? n here with
      | none => none
      | some (key, after) =>
          match blockNode? n (col + 1) true false after with
          | none => none
          | some (value, c) =>
              match nextEntry? col c with
              | none => none
              | some none => some ([(key, value)], c)
              | some (some next) =>
                  (blockEntries? n col next).map fun (more, c) => ((key, value) :: more, c)

end

/-- Directives that a text may start with. -/
def isDirective (line : List Char) : Bool :=
  "%YAML ".toList.isPrefixOf line || "%TAG ".toList.isPrefixOf line

/-- Whether directives start the text, and where the document begins after them. -/
def afterDirectives : Nat → Bool → Cursor → Option (Bool × Cursor)
  | 0, _, _ => none
  | n + 1, seen, c =>
      let here := c.gap.cursor
      match here.rest with
      | '%' :: _ =>
          if here.col == 0 then
            if isDirective here.rest then
              afterDirectives n true (here.moveTo (here.rest.dropWhile (· != '\n')))
            else none
          else some (seen, c)
      | _ => some (seen, if here.atMark '-' then here else c)

/-- Only the mark of its end and blank space follow a document. -/
def endsText (c : Cursor) : Bool :=
  let here := c.gap.cursor
  here.rest.isEmpty
    || (here.atMark '.' && (here.moveTo (here.rest.drop 3)).gap.cursor.rest.isEmpty)

/-- Deepest nesting of a document. -/
def depthLimit : Nat := 128

namespace Node

/-- The document of a text without its references. -/
def ofText? (text : String) : Option Node :=
  let cs := text.toList
  let body := unifiedBreaks (if cs.head? == some (Char.ofNat 0xFEFF) then cs.drop 1 else cs)
  if !body.all isAllowed then none
  else
    let bound := 4 * body.length + 8
    match afterDirectives bound false ⟨0, body⟩ with
    | none => none
    | some (announced, c) =>
        let marked := c.atMark '-'
        if announced && !marked then none
        else
          let start := if marked then c.moveTo (c.rest.drop 3) else c
          match blockNode? bound 0 false (!marked) start with
          | none => none
          | some (node, final) =>
              if endsText final then
                match resolved [] node with
                | some (tree, _) => if tree.depth ≤ depthLimit then some tree else none
                | none => none
              else none

end Node

/-!
## YAML as a source of records

A record is a mapping whose keys are scalars; nothing at all is a mapping or a sequence
without entries.  Any scalar is a text where a text is wanted.
-/

open FormScaffold.Record

namespace Node

/-- The text of a scalar. -/
def scalarText? : Node → Option String
  | .scalar _ _ text => some text
  | _ => none

/-- Nothing is written here. -/
def isVoid : Node → Bool
  | .scalar true _ text => text == ""
  | _ => false

/-- A plain scalar that stands for null. -/
def isNull : Node → Bool
  | .scalar true none text => text == "" || isNullWord text
  | .scalar true (some tag) text => tag == "!!null" && isNullWord text
  | _ => false

/-- The text of a plain scalar. -/
def plainText? : Node → Option String
  | .scalar true _ text => some text
  | _ => none

/-- The entries of a mapping by the texts of its keys. -/
def textEntries? : Node → Option (List (String × Node))
  | .mapping entries => entries.mapM fun (key, node) => (scalarText? key).map fun k => (k, node)
  | node => if node.isVoid then some [] else none

mutual

/-- The free value of a node.  A mapping gives an object; the last of equal keys counts. -/
def toJson? : Node → Option Json.Value
  | .scalar true none text => plainValue? text
  | .scalar false none text => some (.string text)
  | .scalar _ (some tag) text => taggedValue? tag text
  | .sequence items => (itemsToJson? items).map .array
  | .mapping entries => (entriesToJson? entries).map Json.Value.record
  | .named _ node => toJson? node
  | .reference _ => none

/-- The free values of the items of a sequence. -/
def itemsToJson? : List Node → Option (List Json.Value)
  | [] => some []
  | node :: rest =>
      match toJson? node, itemsToJson? rest with
      | some v, some vs => some (v :: vs)
      | _, _ => none

/-- The keys and free values of the entries of a mapping. -/
def entriesToJson? : List (Node × Node) → Option (List (String × Json.Value))
  | [] => some []
  | (key, node) :: rest =>
      match scalarText? key, toJson? node, entriesToJson? rest with
      | some k, some v, some vs => some ((k, v) :: vs)
      | _, _, _ => none

end

instance : Source Node where
  isNone := isNull
  text? := scalarText?
  bool? node := (plainText? node).bind truth?
  natural? node := (plainText? node).bind Yaml.natural?
  items? node := match node with
    | .sequence items => some items
    | node => if node.isVoid then some [] else none
  entries? := textEntries?
  shape? node := (textEntries? node).map .named
  variant? node := (scalarText? node).map fun name => (name, true)
  value? := toJson?

end Node

end FormScaffold.Yaml
