import FormScaffold.Yaml.Node
import FormScaffold.Yaml.Scalar

/-!
# Flow nodes of YAML

Sequences in brackets, mappings in braces, and the marks that may stand before a node of
any kind: the name it goes by, and its tag.
-/

namespace FormScaffold.Yaml

/-- The marks before a node. -/
structure Marks where
  anchor : Option String
  tag : Option String

namespace Marks

/-- No mark stands before the node. -/
def isEmpty (m : Marks) : Bool := m.anchor.isNone && m.tag.isNone

/-- A node with the marks before it.  The tag counts for scalars only. -/
def on (m : Marks) (node : Node) : Node :=
  let node :=
    match node, m.tag with
    | .scalar plain none text, tag => .scalar plain tag text
    | node, _ => node
  match m.anchor with
  | some name => .named name node
  | none => node

end Marks

/-- A character of the name of a node. -/
def isNameChar (c : Char) : Bool := c.isAlphanum || c == '_' || c == '-'

/-- A character that may follow the name of a node. -/
def endsName (cs : List Char) : Bool :=
  atBlank cs || (cs.head?.map ['?', ':', ',', ']', '}', '%', '@', Char.ofNat 96].contains).getD true

/-- The name after the sign of a name or of a reference. -/
def name? (c : Cursor) : Option (String × Cursor) :=
  let word := (c.rest.drop 1).takeWhile isNameChar
  let rest := (c.rest.drop 1).dropWhile isNameChar
  if word.isEmpty || !endsName rest then none else some (String.ofList word, c.moveTo rest)

/-- The name that a node goes by, if one is given here. -/
def anchor? (c : Cursor) : Option (Option String × Cursor) :=
  match c.rest with
  | '&' :: _ => (name? c).map fun (name, c) => (some name, c.skipBlanks)
  | _ => some (none, c)

/-- The tag of a node, if one is given here. -/
def tag? (inFlow : Bool) (c : Cursor) : Option (Option String × Cursor) :=
  match c.rest with
  | '!' :: _ =>
      let stops := fun x => isBlank x || x == '\n' || (inFlow && isFlowMark x)
      let word := c.rest.takeWhile fun x => !stops x
      let next := c.moveTo (c.rest.dropWhile fun x => !stops x)
      some (some (String.ofList word), next.skipBlanks)
  | _ => some (none, c)

/-- The marks before a node, in any order. -/
def marks? (inFlow : Bool) (c : Cursor) : Option (Marks × Cursor) :=
  match anchor? c with
  | none => none
  | some (early, c) =>
      match tag? inFlow c with
      | none => none
      | some (tag, c) =>
          match early with
          | some name => some (⟨some name, tag⟩, c)
          | none => (anchor? c).map fun (late, c) => (⟨late, tag⟩, c)

/-- A reference to a node. -/
def reference? (c : Cursor) : Option (Node × Cursor) :=
  (name? c).map fun (name, c) => (.reference name, c)

/-- A scalar in quotes as a node. -/
def quotedNode? (c : Cursor) : Option (Node × Cursor) :=
  (quoted? c).map fun (text, c) => (.scalar false none text, c)

/-- A plain scalar of a flow node.  A colon after it has to have a blank behind it. -/
def flowPlain? (c : Cursor) : Option (Node × Cursor) :=
  match plain? true 0 c with
  | none => none
  | some (text, next) =>
      match next.rest with
      | ':' :: x :: _ =>
          if isFlowMark x || x == '?' then none else some (.scalar true none text, next)
      | _ => some (.scalar true none text, next)

/-- Nothing of a flow node stands here. -/
def endsFlow (c : Cursor) : Bool :=
  match c.rest with
  | x :: _ => [',', ']', '}', ':'].contains x
  | [] => true

mutual

/-- A node in a flow node, with a bound on the steps. -/
def flowNode? : Nat → Cursor → Option (Node × Cursor)
  | 0, _ => none
  | n + 1, c =>
      match marks? true c with
      | none => none
      | some (marks, after) =>
          let here := if marks.isEmpty then after else after.gap.cursor
          if !marks.isEmpty && endsFlow here then some (marks.on .void, after)
          else
            let read : Option (Node × Cursor) :=
              match here.rest with
              | '[' :: _ => (flowItems? n here.step).map fun (items, c) => (Node.sequence items, c)
              | '{' :: _ => (flowEntries? n here.step).map fun (es, c) => (Node.mapping es, c)
              | '*' :: _ => reference? here
              | '"' :: _ | '\'' :: _ => quotedNode? here
              | _ => if here.atDocumentMark then none else flowPlain? here
            read.map fun (node, c) => (marks.on node, c)

/-- What stands after the colon of an entry. -/
def flowValue? : Nat → Cursor → Option (Node × Cursor)
  | 0, _ => none
  | n + 1, c =>
      let here := c.gap.cursor
      if endsFlow here then some (.void, here) else flowNode? n here

/-- An entry of a flow node: a node, and what a colon after it on its line leads to. -/
def flowEntry? : Nat → Cursor → Option ((Node × Option Node) × Cursor)
  | 0, _ => none
  | n + 1, c =>
      match flowNode? n c with
      | none => none
      | some (node, after) =>
          let next := after.gap.cursor
          match next.rest with
          | ':' :: _ =>
              if c.breaksBefore next then none
              else
                (flowValue? n next.step).map fun (value, c) => ((node, some value), c.gap.cursor)
          | _ => some ((node, none), next)

/-- The rest of a sequence in brackets. -/
def flowItems? : Nat → Cursor → Option (List Node × Cursor)
  | 0, _ => none
  | n + 1, c =>
      let here := c.gap.cursor
      match here.rest with
      | ']' :: _ => some ([], here.step)
      | _ =>
          match flowEntry? n here with
          | none => none
          | some ((node, value), next) =>
              let item :=
                match value with
                | some value => Node.mapping [(node, value)]
                | none => node
              match next.rest with
              | ',' :: _ => (flowItems? n next.step).map fun (more, c) => (item :: more, c)
              | ']' :: _ => some ([item], next.step)
              | _ => none

/-- The rest of a mapping in braces. -/
def flowEntries? : Nat → Cursor → Option (List (Node × Node) × Cursor)
  | 0, _ => none
  | n + 1, c =>
      let here := c.gap.cursor
      match here.rest with
      | '}' :: _ => some ([], here.step)
      | _ =>
          match flowEntry? n here with
          | none => none
          | some ((key, value), next) =>
              let entry := (key, value.getD .void)
              match next.rest with
              | ',' :: _ => (flowEntries? n next.step).map fun (more, c) => (entry :: more, c)
              | '}' :: _ => some ([entry], next.step)
              | _ => none

end

end FormScaffold.Yaml
