import FormScaffold.Template.Evaluation

/-!
# Rendering templates

Nodes are rendered in order to one text.  Bodies of macros, blocks and included
templates are rendered through a function that is given, with a bound on how deep they
may lie in each other.
-/

namespace FormScaffold.Template

open FormScaffold FormScaffold.Json FormScaffold.Text

/-- Change the topmost frame. -/
def changeTop (f : Frame → Frame) : Run Unit :=
  modify fun s => { s with frames := match s.frames with
    | top :: rest => f top :: rest
    | [] => [] }

/-- A property of the topmost frame. -/
def topIs (p : Frame → Bool) : Run Bool := do
  pure (((← get).frames.head?.map p).getD false)

/-- Open a frame. -/
def openFrame (f : Frame) : Run Unit := modify fun s => { s with frames := f :: s.frames }

/-- Close the topmost frame. -/
def closeFrame : Run Unit := modify fun s => { s with frames := s.frames.drop 1 }

/-- Assign a value to a name. -/
def assign (key : String) (isGlobal : Bool) (v : Value) : Run Unit :=
  modify fun s => { s with frames :=
    if isGlobal then assignBelowLoops key v s.frames
    else match s.frames with
      | top :: rest => top.assign key v :: rest
      | [] => [] }

/-- Stop or skip the rest of the round of the loop of the topmost frame. -/
def interrupt (status : LoopStatus) (word : String) : Run Unit := do
  if ← topIs fun f => f.loop?.isSome then
    changeTop fun f => { f with loop? := f.loop?.map fun l => { l with status := status } }
  else fail ("Attempted " ++ backquoted word ++ " while not in `for` loop")

/-- The name of a container in messages. -/
def containerName (e : Expr) : Except String String :=
  match e.term with
  | .name p => .ok p
  | .call name _ => .ok name
  | .array _ => .ok "an array literal"
  | t =>
      .error ("Forloop containers have to be an ident or a function call (tried to iterate on '"
        ++ t.outline ++ "')")

/-- What a loop goes over: pairs of keys and values. -/
def loopItems (name : String) (hasKey : Bool) (v : Value) : Except String (List (String × Value)) :=
  let noMap := "Tried to iterate using key value on variable " ++ backquoted name
    ++ ", but it isn't an object/map"
  match v with
  | .array items => if hasKey then .error noMap else .ok (items.map fun i => ("", i))
  | .string s =>
      if hasKey then .error noMap
      else .ok ((clusters s.toList).map fun c => ("", .string (String.ofList c)))
  | .object members =>
      if hasKey then .ok members
      else
        .error ("Tried to iterate using key value on variable " ++ backquoted name
          ++ ", but it is missing a key")
  | _ =>
      .error ("Tried to iterate on a container (" ++ backquoted name
        ++ ") that has a unsupported type")

/-- The rounds of a loop, up to a number of them. -/
def rounds (body : Run String) : Nat → String → Run String
  | 0, text => pure text
  | n + 1, text => do
      let part ← body
      let text := text ++ part
      if ← topIs Frame.isLeft then pure text
      else
        changeTop fun f => { f with assigned := [], loop? := f.loop?.map LoopState.advance }
        rounds body n text

/-- Run a loop. -/
def runLoop (key : Option String) (value : String) (items : List (String × Value))
    (body emptyBody : Run String) : Run String := do
  if items.isEmpty then emptyBody
  else
    let template := (← get).activeTemplate
    openFrame ⟨.loop, template, [], some ⟨key, value, items, 0, .running⟩⟩
    let text ← rounds body items.length ""
    closeFrame
    pure text

/-- The first template of a list that the set has. -/
def firstKnown? (lib : Library) (names : List String) : Option Definition :=
  names.findSome? fun n => Keyed.get? n lib

/-- Render an included template. -/
def includeTemplate (w : Surroundings) (render : List Node → Run String) (names : List String)
    (lenient : Bool) : Run String := do
  match firstKnown? w.library names with
  | some d => do
      modify fun s => { s with macros := w.library.addMacros (Library.importBound w.library) d s.macros }
      openFrame ⟨.inclusion, d.name, [], none⟩
      let text ← render d.nodes
      closeFrame
      pure text
  | none =>
      if lenient then pure ""
      else fail ("Template '[" ++ String.intercalate ", " names ++ "]' not found")

/-- The definition of a block nearest to the rendered template, with the template it is
from and its place in the line of inheritance. -/
def nearestBlock? (lib : Library) (name : String) :
    Nat → List String → Option (String × Nat × List Node)
  | _, [] => none
  | level, template :: rest =>
      match (Keyed.get? template lib).bind fun d => d.block? name with
      | some body => some (template, level, body)
      | none => nearestBlock? lib name (level + 1) rest

/-- The line of inheritance of a template, from itself upwards. -/
def lineage (lib : Library) (template : String) : List String :=
  template :: ((Keyed.get? template lib).map lib.ancestry).getD []

/-- Render a block: the nearest definition of that name, or its own body. -/
def renderBlock (w : Surroundings) (render : List Node → Run String) (name : String)
    (own : Run String) : Run String := do
  let template := (← get).activeTemplate
  match nearestBlock? w.library name 0 (lineage w.library template) with
  | some (file, level, body) => do
      modify fun s => { s with blocks := ⟨name, file, level⟩ :: s.blocks }
      render body
  | none => own

/-- Render the next definition upwards of the block under way. -/
def renderParentBlock (w : Surroundings) (render : List Node → Run String) : Run String := do
  let topLevel := "Tried to use super() in the top level block"
  match (← get).blocks with
  | [] => fail topLevel
  | b :: _ =>
      match nearestBlock? w.library b.name (b.level + 1) (w.parents.drop b.level) with
      | none => fail topLevel
      | some (file, level, body) => do
          modify fun s => { s with blocks := ⟨b.name, file, level⟩ :: s.blocks }
          let text ← render body
          modify fun s => { s with blocks := s.blocks.drop 1 }
          if w.parents.length ≤ level then
            modify fun s => { s with blocks := s.blocks.drop 1 }
          pure text

section

variable (w : Surroundings) (render : List Node → Run String)

mutual

/-- Render one node. -/
def renderNode : Node → Run String
  | .text s => pure s
  | .print e => valueText <$> evalExpr w render e
  | .assign key isGlobal e => do
      let v ← unescaped (evalExpr w render e)
      assign key isGlobal v
      pure ""
  | .filtered f body => do
      let text ← renderNodes body ""
      if f.name == "safe" then pure text
      else
        let filter ← findFilter f.name
        valueText <$> explained ("Filter call '" ++ f.name ++ "' failed") (do
          let values ← evalArgs w render f.args
          orFail (filter (.string text) (Keyed.ofPairs values)))
  | .branch cases otherwise => do
      match ← renderCases cases with
      | some text => pure text
      | none => renderOptional otherwise
  | .loop key value container body emptyBody => do
      let name ← orFail (containerName container)
      let v ← unescaped (evalExpr w render container)
      let items ← orFail (loopItems name key.isSome v)
      runLoop key value items (renderNodes body "") (renderOptional emptyBody)
  | .leave => do
      interrupt .left "break"
      pure ""
  | .skip => do
      interrupt .skipping "continue"
      pure ""
  | .block name body => renderBlock w render name (renderNodes body "")
  | .parentBlock => renderParentBlock w render
  | .inclusion names lenient => includeTemplate w render names lenient
  | .inheritance parent =>
      fail ("Inheritance in included templates is currently not supported: extended "
        ++ backquoted parent)
  | .importMacros _ _ => pure ""
  | .macroDef _ _ _ => pure ""

/-- Render nodes in order, after the text so far, until a loop is interrupted. -/
def renderNodes : List Node → String → Run String
  | [], text => pure text
  | n :: ns, text => do
      let part ← renderNode n
      if ← topIs Frame.isInterrupted then pure (text ++ part)
      else renderNodes ns (text ++ part)

/-- Render the first case that holds. -/
def renderCases : List (Expr × List Node) → Run (Option String)
  | [] => pure none
  | (e, body) :: rest => do
      if ← truthOf w render e then some <$> renderNodes body ""
      else renderCases rest

/-- Render a body that may be missing. -/
def renderOptional : Option (List Node) → Run String
  | none => pure ""
  | some body => renderNodes body ""

end

end

/-- How deep macros, blocks and included templates may lie in each other. -/
def nestingLimit : Nat := 1000

/-- Render a body with a bound on nesting. -/
def renderBody (w : Surroundings) : Nat → List Node → Run String
  | 0, _ => fail "Templates are nested too deeply"
  | n + 1, body => renderNodes w (renderBody w n) body ""

/-- Where a failure arose, as its first text says. -/
def faultPlace (w : Surroundings) (s : RenderState) : String :=
  let start := "Failed to render '" ++ w.template ++ "'"
  let inMacro :=
    match s.frames.head?.map Frame.kind with
    | some (.macroCall space name) =>
        ": error while rendering macro " ++ backquoted (space ++ "::" ++ name)
    | _ => ""
  let inTemplate (name : String) : String := " (error happened in '" ++ name ++ "')."
  let definers (block : String) : List String :=
    (lineage w.library w.template).filter fun t =>
      (((Keyed.get? t w.library).bind fun d => d.block? block).isSome)
  let place :=
    match s.blocks with
    | b :: _ =>
        let own := ((Keyed.get? w.template w.library).bind fun d => d.block? b.name).isSome
        match if own then (definers b.name)[b.level]? else none with
        | some file => if file != w.template then inTemplate file else ""
        | none => " (error happened in a parent template)"
    | [] =>
        match w.parents.getLast? with
        | some parent => inTemplate parent
        | none => ""
  start ++ inMacro ++ place

/-- Render the nodes of a whole template, and say where a failure arose. -/
def renderTop (w : Surroundings) : List Node → String → Run String
  | [], text => pure text
  | n :: ns, text => do
      match ← outcome (renderNode w (renderBody w nestingLimit) n) with
      | .ok part => renderTop w ns (text ++ part)
      | .error causes => throw (faultPlace w (← get) :: causes)

/-- Endings of names of templates whose output is markup. -/
def markupEndings : List String := [".html", ".htm", ".xml"]

/-- Text put into the output of the template is made safe for markup. -/
def isMarkup (template : String) : Bool :=
  markupEndings.any fun e => e.toList.isSuffixOf template.toList

/-- Render a template of a set with the values it is given. -/
def Library.render (lib : Library) (world : Functions.World) (given : Keyed Value)
    (template : String) : Except Fault String :=
  match Keyed.get? template lib with
  | none => .error ["Template '" ++ template ++ "' not found"]
  | some d =>
      let parents := lib.ancestry d
      let root := (parents.getLast?.bind fun r => Keyed.get? r lib).getD d
      let w : Surroundings := ⟨lib, given, template, root.name, parents, world⟩
      let macros := lib.addMacros (Library.importBound lib) d []
      let start : RenderState := ⟨[⟨.origin, template, [], none⟩], [], macros, isMarkup template⟩
      (renderTop w root.nodes "" start).1

end FormScaffold.Template
