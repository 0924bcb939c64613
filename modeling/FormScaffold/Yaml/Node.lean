import FormScaffold.Text.Utf8

/-!
# YAML trees

A tree of scalars, sequences and mappings.  A mapping keeps its entries as they were
written.  A node may carry a name by which later places refer to it; `resolved` puts the
node in these places.
-/

namespace FormScaffold.Yaml

/-- A node of a YAML text. -/
inductive Node where
  | scalar (plain : Bool) (tag : Option String) (text : String)
  | sequence (items : List Node)
  | mapping (entries : List (Node × Node))
  | named (anchor : String) (node : Node)
  | reference (anchor : String)
  deriving Repr

namespace Node

/-- What stands where nothing is written. -/
def void : Node := .scalar true none ""

mutual

/-- The tree with every reference replaced by the node of that name, the last one before
the reference, and the names known after it.  A reference to no node fails. -/
def resolved (known : List (String × Node)) : Node → Option (Node × List (String × Node))
  | .scalar plain tag text => some (.scalar plain tag text, known)
  | .sequence items => (resolvedItems known items).map fun (items, known) => (.sequence items, known)
  | .mapping entries =>
      (resolvedEntries known entries).map fun (entries, known) => (.mapping entries, known)
  | .named anchor node =>
      (resolved known node).map fun (node, known) => (node, (anchor, node) :: known)
  | .reference anchor => (known.lookup anchor).map fun node => (node, known)

/-- Resolve the items of a sequence in order. -/
def resolvedItems (known : List (String × Node)) :
    List Node → Option (List Node × List (String × Node))
  | [] => some ([], known)
  | node :: rest =>
      match resolved known node with
      | none => none
      | some (node, known) =>
          (resolvedItems known rest).map fun (rest, known) => (node :: rest, known)

/-- Resolve the entries of a mapping in order. -/
def resolvedEntries (known : List (String × Node)) :
    List (Node × Node) → Option (List (Node × Node) × List (String × Node))
  | [] => some ([], known)
  | (key, node) :: rest =>
      match resolved known key with
      | none => none
      | some (key, known) =>
          match resolved known node with
          | none => none
          | some (node, known) =>
              (resolvedEntries known rest).map fun (rest, known) => ((key, node) :: rest, known)

end

mutual

/-- How many sequences and mappings stand in each other. -/
def depth : Node → Nat
  | .scalar _ _ _ | .reference _ => 0
  | .sequence items => depthOfItems items + 1
  | .mapping entries => depthOfEntries entries + 1
  | .named _ node => depth node

/-- The greatest depth of the items of a sequence. -/
def depthOfItems : List Node → Nat
  | [] => 0
  | node :: rest => max (depth node) (depthOfItems rest)

/-- The greatest depth of the entries of a mapping. -/
def depthOfEntries : List (Node × Node) → Nat
  | [] => 0
  | (key, node) :: rest => max (max (depth key) (depth node)) (depthOfEntries rest)

end

end Node

end FormScaffold.Yaml
