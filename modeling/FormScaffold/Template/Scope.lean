import FormScaffold.Template.Access
import FormScaffold.Template.Library

/-!
# Names in scope

Rendering keeps a stack of frames: one for the template itself, and one for each macro,
loop and inclusion that is under way.  A name is looked up from the top of the stack,
but not below a macro, and last in the values that the template was given.
-/

namespace FormScaffold.Template

open FormScaffold FormScaffold.Json FormScaffold.Text

/-- Whether a loop goes on, was left, or skips the rest of a round. -/
inductive LoopStatus where
  | running
  | left
  | skipping
  deriving DecidableEq

/-- A loop under way: its variables, what it goes over, and the current round. -/
structure LoopState where
  keyName : Option String
  valueName : String
  items : List (String × Value)
  round : Nat
  status : LoopStatus

namespace LoopState

/-- The value of the current round. -/
def value (l : LoopState) : Value := ((l.items[l.round]?).map Prod.snd).getD .null

/-- The key of the current round. -/
def key (l : LoopState) : String := ((l.items[l.round]?).map Prod.fst).getD ""

/-- What a loop tells about its progress. -/
def progress? (l : LoopState) (what : List Char) : Option Value :=
  match String.ofList what with
  | "index" => some (.ofNat (l.round + 1))
  | "index0" => some (.ofNat l.round)
  | "first" => some (.bool (l.round == 0))
  | "last" => some (.bool (l.round + 1 == l.items.length))
  | _ => none

/-- A name as the loop knows it. -/
def find? (l : LoopState) (path : List Char) : Option Value :=
  let (head, tail) := splitHead path
  if head == ['l', 'o', 'o', 'p'] then l.progress? (tail.getD [])
  else if head == l.valueName.toList then
    match tail with
    | none => some l.value
    | some rest => atPath? l.value rest
  else if l.keyName.map String.toList == some path then some (.string l.key)
  else none

/-- The next round. -/
def advance (l : LoopState) : LoopState := { l with round := l.round + 1, status := .running }

end LoopState

/-- What a frame was opened for. -/
inductive FrameKind where
  | origin
  | macroCall (space name : String)
  | loop
  | inclusion
  deriving DecidableEq

/-- A frame of the stack: the template it belongs to, and the values assigned in it. -/
structure Frame where
  kind : FrameKind
  template : String
  assigned : Keyed Value
  loop? : Option LoopState

namespace Frame

/-- A name as the frame knows it. -/
def find? (f : Frame) (path : List Char) : Option Value :=
  match atPathIn? f.assigned path with
  | some v => some v
  | none => f.loop?.bind (·.find? path)

/-- Nothing below the frame is in scope. -/
def isFloor (f : Frame) : Bool :=
  match f.kind with
  | .origin | .macroCall _ _ => true
  | .loop | .inclusion => false

/-- The frame with one more value. -/
def assign (key : String) (v : Value) (f : Frame) : Frame :=
  { f with assigned := Keyed.insert key v f.assigned }

/-- The frame is a loop's, and the loop does not go on with its body. -/
def isInterrupted (f : Frame) : Bool :=
  match f.loop? with
  | some l => l.status != .running
  | none => false

/-- The frame is a loop's, and the loop was left. -/
def isLeft (f : Frame) : Bool :=
  match f.loop? with
  | some l => l.status == .left
  | none => false

end Frame

/-- Look a name up in a stack, top first, and then among the given values. -/
def findIn? (given : Keyed Value) (path : List Char) : List Frame → Option Value
  | [] => atPathIn? given path
  | f :: rest =>
      match f.find? path with
      | some v => some v
      | none => if f.isFloor then atPathIn? given path else findIn? given path rest

/-- Assign a value in the nearest frame that is not a loop's. -/
def assignBelowLoops (key : String) (v : Value) : List Frame → List Frame
  | [] => []
  | f :: rest =>
      if f.kind == .loop then f :: assignBelowLoops key v rest else f.assign key v :: rest

/-- All that is in scope, as one map. -/
def visibleIn (given : Keyed Value) : List Frame → Keyed Value
  | [] => given
  | f :: rest =>
      let below :=
        match f.kind with
        | .macroCall _ _ => []
        | _ => visibleIn given rest
      let below := f.assigned.foldl (fun m p => Keyed.insert p.1 p.2 m) below
      match f.loop? with
      | none => below
      | some l =>
          let withValue := Keyed.insert l.valueName l.value below
          match l.keyName with
          | none => withValue
          | some k => Keyed.insert k (.string l.key) withValue

/-- What stands in the first pair of brackets of a text, brackets within it included,
with what follows.  The number counts the brackets that are open. -/
def bracketed (opened : Nat) : List Char → List Char × List Char
  | [] => ([], [])
  | ']' :: cs =>
      match opened with
      | 0 => ([], cs)
      | n + 1 =>
          let (inner, rest) := bracketed n cs
          (']' :: inner, rest)
  | c :: cs =>
      let (inner, rest) := bracketed (if c == '[' then opened + 1 else opened) cs
      (c :: inner, rest)

/-- The contents of the outer brackets of a path that are names, in order. -/
def namedIndices : Nat → List Char → List (List Char)
  | 0, _ => []
  | n + 1, cs =>
      match cs.dropWhile (· != '[') with
      | [] => []
      | _ :: rest =>
          let (inner, after) := bracketed 0 rest
          let more := namedIndices n after
          match inner with
          | c :: _ =>
              let isFixed := c == '"' || c == '\'' || (position? (String.ofList inner)).isSome
              if isFixed then more else inner :: more
          | [] => more

/-- Put a key in place of the first bracket that holds a name. -/
def substituted (inner key path : List Char) : List Char :=
  match cut? ('[' :: inner ++ [']']) path with
  | some (before, rest) => before ++ '.' :: key ++ rest
  | none => path ++ '.' :: key

/-- Turn the brackets that are left into points, and quotes in them into double quotes. -/
def dotted (path : List Char) : List Char :=
  let path := replaceAll ['/'] ['~', '1'] path
  let path := replaceAll ['[', '\''] ['.', '"'] path
  let path := replaceAll ['[', '"'] ['.', '"'] path
  let path := replaceAll ['['] ['.'] path
  let path := replaceAll ['\'', ']'] ['"'] path
  let path := replaceAll ['"', ']'] ['"'] path
  replaceAll [']'] [] path

/-- The name under which a template can print all that is in scope. -/
def everythingName : String := "__tera_context"

/-- A text in back quotes. -/
def backquoted (s : String) : String := "`" ++ s ++ "`"

/-- The dotted form of a path: names in brackets are replaced by their values, which
`find` gives. -/
def substitutedPath (find : List Char → Except String Value) (path : List Char) :
    List (List Char) → List Char → Except String (List Char)
  | [], new => .ok (dotted new)
  | inner :: rest, new =>
      match find inner with
      | .error text =>
          .error ("Variable " ++ String.ofList path ++ " can not be evaluated because: " ++ text)
      | .ok (.string s) =>
          substitutedPath find path rest (substituted inner ('"' :: s.toList ++ ['"']) new)
      | .ok (.number n) =>
          substitutedPath find path rest (substituted inner n.text new)
      | .ok _ =>
          .error ("Only variables evaluating to String or Number can be used as index ("
            ++ backquoted (String.ofList inner) ++ " of " ++ backquoted (String.ofList path) ++ ")")

/-- The value of a path in a scope, with a bound on the depth of its brackets. -/
def resolve (given : Keyed Value) (frames : List Frame) (template : String) :
    Nat → List Char → Except String Value
  | 0, _ => .error ""
  | n + 1, path =>
      let missing := "Variable " ++ backquoted (String.ofList path)
        ++ " not found in context while rendering '" ++ template ++ "'"
      if !path.contains '[' then
        match findIn? given path frames with
        | some v => .ok v
        | none => .error missing
      else
        let indices := namedIndices path.length path
        match substitutedPath (resolve given frames template n) path indices path with
        | .error text => .error text
        | .ok full =>
            match findIn? given full frames with
            | some v => .ok v
            | none =>
                .error (missing ++ ": the evaluated version was " ++ backquoted (String.ofList full)
                  ++ ". Maybe the index is out of bounds?")

/-- The macros that the templates know: by template, then by the name they are
imported under, the file they come from and the macros themselves. -/
abbrev MacroTable := Keyed (Keyed (String × List Macro))

/-- Add what is missing in a map from another one. -/
def inherit {α : Type} (others m : Keyed α) : Keyed α :=
  others.foldl (fun m p => if Keyed.contains p.1 m then m else Keyed.insert p.1 p.2 m) m

namespace Library

mutual

/-- Add the macros of a template: its own, those it imports, and those of its parents. -/
def addMacros (lib : Library) : Nat → Definition → MacroTable → MacroTable
  | 0, _, table => table
  | n + 1, d, table =>
      if Keyed.contains d.name table then table
      else
        let own : Keyed (String × List Macro) :=
          if d.macros.isEmpty then [] else [("self", (d.name, d.macros))]
        let (spaces, table) := addImports lib n d.imports own table
        addParents lib n d.name (lib.ancestry d) (Keyed.insert d.name spaces table)

/-- Add the macros of imported files, and what those files know. -/
def addImports (lib : Library) : Nat → List (String × String) → Keyed (String × List Macro) →
    MacroTable → Keyed (String × List Macro) × MacroTable
  | 0, _, spaces, table => (spaces, table)
  | _ + 1, [], spaces, table => (spaces, table)
  | n + 1, (file, space) :: rest, spaces, table =>
      match Keyed.get? file lib with
      | none => addImports lib n rest spaces table
      | some d =>
          let spaces := Keyed.insert space (file, d.macros) spaces
          let table := addMacros lib n d table
          addImports lib n rest (inherit ((Keyed.get? file table).getD []) spaces) table

/-- Add the macros that the parents of a template know. -/
def addParents (lib : Library) : Nat → String → List String → MacroTable → MacroTable
  | 0, _, _, table => table
  | _ + 1, _, [], table => table
  | n + 1, name, parent :: rest, table =>
      match Keyed.get? parent lib with
      | none => addParents lib n name rest table
      | some d =>
          let table := addMacros lib n d table
          let known := inherit ((Keyed.get? parent table).getD []) ((Keyed.get? name table).getD [])
          addParents lib n name rest (Keyed.insert name known table)

end

/-- How many imports and parents may follow each other. -/
def importBound (lib : Library) : Nat :=
  (lib.length + 1) * ((Keyed.values lib).foldl (fun n d => n + d.imports.length + 2) 2)

end Library

/-- A macro by the template that calls it, its space and its name, with the template it
comes from. -/
def MacroTable.find (table : MacroTable) (template space name : String) :
    Except String (String × Macro) :=
  match (Keyed.get? template table).bind (Keyed.get? space) with
  | none =>
      .error ("Macro namespace " ++ backquoted space ++ " was not found in template "
        ++ backquoted template ++ ". Have you maybe forgotten to import it, or misspelled it?")
  | some (file, macros) =>
      match macros.find? (·.name == name) with
      | some m => .ok (file, m)
      | none =>
          .error ("Macro " ++ backquoted (space ++ "::" ++ name) ++ " not found in template "
            ++ backquoted template)

end FormScaffold.Template
