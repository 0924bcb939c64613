import FormScaffold.Template.NodeText

/-!
# Sets of templates

Templates know each other by name.  A set is sound if every parent and every file of
macros is there, and no template inherits from itself.
-/

namespace FormScaffold.Template

/-!
## Definitions of templates

A template that was read, with what other templates may use of it: the template it
inherits from, its blocks, its macros, and the macros it imports.
-/

mutual

/-- The blocks that a node defines, outermost first. -/
def Node.blocks : Node → List (String × List Node)
  | .block name body => (name, body) :: blocksIn body
  | _ => []

/-- The blocks of a body.  Blocks within branches, loops and filtered parts stay there. -/
def blocksIn : List Node → List (String × List Node)
  | [] => []
  | n :: ns => n.blocks ++ blocksIn ns

end

/-- The macro that a node defines. -/
def Node.macro? : Node → Option Macro
  | .macroDef name params body => some ⟨name, params, body⟩
  | _ => none

/-- The file and the name of the macros that a node imports. -/
def Node.import? : Node → Option (String × String)
  | .importMacros file space => some (file, space)
  | _ => none

/-- The parent that a node names. -/
def Node.parent? : Node → Option String
  | .inheritance parent => some parent
  | _ => none

/-- A template that was read. -/
structure Definition where
  name : String
  nodes : List Node

namespace Definition

/-- The template it inherits from. -/
def parent? (d : Definition) : Option String := d.nodes.findSome? Node.parent?

/-- Its blocks by name. -/
def blocks (d : Definition) : List (String × List Node) := blocksIn d.nodes

/-- Its macros. -/
def macros (d : Definition) : List Macro := d.nodes.filterMap Node.macro?

/-- The files whose macros it imports, each with its name here. -/
def imports (d : Definition) : List (String × String) := d.nodes.filterMap Node.import?

/-- The body of a block. -/
def block? (d : Definition) (name : String) : Option (List Node) := d.blocks.lookup name

/-- No two blocks and no two macros have one name. -/
def isUnambiguous (d : Definition) : Bool :=
  decide (d.blocks.map Prod.fst).Nodup && decide (d.macros.map Macro.name).Nodup

/-- Read a template. -/
def ofText? (name source : String) : Option Definition :=
  match Node.ofText? source with
  | none => none
  | some nodes =>
      let d : Definition := ⟨name, nodes⟩
      if d.isUnambiguous then some d else none

end Definition

/-! ## Sets of templates -/

open FormScaffold

/-- Templates by name. -/
abbrev Library := Keyed Definition

/-- Names in quotes and brackets. -/
def quotedNames (names : List String) : String :=
  "[" ++ String.intercalate ", " (names.map fun n => "\"" ++ n ++ "\"") ++ "]"

namespace Library

/-- The names of the templates that one inherits from, the nearest first.  The walk
ends with an error at a missing parent, or when it is back at its start. -/
def ancestryFrom (lib : Library) (start : String) : Nat → Definition → List String →
    Except String (List String)
  | 0, _, found => .ok found
  | n + 1, d, found =>
      if !found.isEmpty && d.name == start then
        .error ("Circular extend detected for template '" ++ start ++ "'. Inheritance chain: `"
          ++ quotedNames found ++ "`")
      else
        match d.parent? with
        | none => .ok found
        | some parent =>
            match Keyed.get? parent lib with
            | some p => ancestryFrom lib start n p (found ++ [p.name])
            | none =>
                .error ("Template '" ++ d.name ++ "' is inheriting from '" ++ parent
                  ++ "', which doesn't exist or isn't loaded.")

/-- The templates that a template inherits from, the nearest first. -/
def ancestry? (lib : Library) (d : Definition) : Except String (List String) :=
  ancestryFrom lib d.name (lib.length + 2) d []

/-- The templates that a template inherits from, in a sound set. -/
def ancestry (lib : Library) (d : Definition) : List String :=
  match lib.ancestry? d with
  | .ok names => names
  | .error _ => []

/-- What is wrong with the ancestry of a template. -/
def ancestryFault? (lib : Library) (d : Definition) : Option String :=
  match lib.ancestry? d with
  | .ok _ => none
  | .error text => some text

/-- A file of macros that a template imports but the set lacks. -/
def importFault? (lib : Library) (d : Definition) : Option String :=
  (d.imports.find? fun p => !Keyed.contains p.1 lib).map fun p =>
    "Template `" ++ d.name ++ "` loads macros from `" ++ p.1 ++ "` which isn't present in Tera"

/-- What keeps a set from being sound. -/
def fault? (lib : Library) : Option String :=
  match (Keyed.values lib).findSome? lib.ancestryFault? with
  | some text => some text
  | none => (Keyed.values lib).findSome? lib.importFault?

/-- Add a template, or replace the one of that name; the error is the first diagnostic. -/
def compile (lib : Library) (name source : String) : Except String Library :=
  match Definition.ofText? name source with
  | none => .error ("Failed to parse '" ++ name ++ "'")
  | some d =>
      let next : Library := Keyed.insert name d lib
      match fault? next with
      | some text => .error text
      | none => .ok next

end Library

end FormScaffold.Template
