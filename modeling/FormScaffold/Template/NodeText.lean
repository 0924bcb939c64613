import FormScaffold.Template.ExprText
import FormScaffold.Text.Blank

/-!
# Templates from text

A template is read as a sequence of pieces: runs of text, and parts in braces.  A part
may carry marks that remove the white space before or after it.  Once the pieces of a
body are known, `settled` removes that white space and gives the nodes.
-/

namespace FormScaffold.Template

open FormScaffold.Text

/-- A piece of a body.  A part tells whether it removes white space before it and
after it; a part without an opinion on what follows leaves that to the part before. -/
inductive Piece where
  | text (cs : List Char)
  | part (left : Bool) (right : Option Bool) (node : Option Node)

/-- The next piece, or the end of the body, removes white space before it. -/
def trimsBefore (atEnd : Bool) : List Piece → Bool
  | [] => atEnd
  | .text _ :: _ => false
  | .part left _ _ :: _ => left

/-- A node for a text, if there is any text. -/
def textNode : List Char → List Node
  | [] => []
  | cs => [.text (String.ofList cs)]

/-- The nodes of a body, after the marks at its start, within it and at its end have
removed white space. -/
def settledFrom (atStart atEnd : Bool) : List Piece → List Node
  | [] => []
  | .text cs :: rest =>
      let cs := if atStart then trimStart cs else cs
      let cs := if trimsBefore atEnd rest then trimEnd cs else cs
      textNode cs ++ settledFrom false atEnd rest
  | .part _ right node :: rest => node.toList ++ settledFrom (right.getD atStart) atEnd rest

/-- The nodes of a body as they stand. -/
def unsettled : List Piece → List Node
  | [] => []
  | .text cs :: rest => textNode cs ++ unsettled rest
  | .part _ _ node :: rest => node.toList ++ unsettled rest

/-- Where a body stands, which decides what it may hold and whether marks count. -/
structure Place where
  atTop : Bool
  inBlock : Bool
  inLoop : Bool
  inMacro : Bool
  heedsMarks : Bool

namespace Place

/-- The body of a whole template. -/
def top : Place := ⟨true, false, false, false, true⟩

/-- The nodes of a body at a place. -/
def settle (p : Place) (atStart atEnd : Bool) (pieces : List Piece) : List Node :=
  if p.heedsMarks then settledFrom atStart atEnd pieces else unsettled pieces

end Place

/-- The start of a tag, and whether it has a mark. -/
def tagStart? (cs : List Char) : Option (Bool × List Char) :=
  match cs with
  | '{' :: '%' :: '-' :: rest => some (true, rest)
  | '{' :: '%' :: rest => some (false, rest)
  | _ => none

/-- The end of a tag, and whether it has a mark. -/
def tagEnd? (cs : List Char) : Option (Bool × List Char) :=
  match skipGap cs with
  | '-' :: '%' :: '}' :: rest => some (true, rest)
  | '%' :: '}' :: rest => some (false, rest)
  | _ => none

/-- The start of a printed value, and whether it has a mark. -/
def printStart? (cs : List Char) : Option (Bool × List Char) :=
  match cs with
  | '{' :: '{' :: '-' :: rest => some (true, rest)
  | '{' :: '{' :: rest => some (false, rest)
  | _ => none

/-- The end of a printed value, and whether it has a mark. -/
def printEnd? (cs : List Char) : Option (Bool × List Char) :=
  match skipGap cs with
  | '-' :: '}' :: '}' :: rest => some (true, rest)
  | '}' :: '}' :: rest => some (false, rest)
  | _ => none

/-- The start of a tag with its first word. -/
def tag? (word : String) (cs : List Char) : Option (Bool × List Char) := do
  let (left, rest) ← tagStart? cs
  let rest ← after? word rest
  some (left, rest)

/-- A tag of one word, with its marks. -/
def bareTag? (word : String) (cs : List Char) : Option ((Bool × Bool) × List Char) := do
  let (left, rest) ← tag? word cs
  let (right, rest) ← tagEnd? rest
  some ((left, right), rest)

/-- A closing tag, which may repeat a name. -/
def closingTag? (word : String) (cs : List Char) : Option ((Bool × Bool) × List Char) := do
  let (left, rest) ← tag? word cs
  let rest :=
    match ident? rest with
    | some (_, rest) => rest
    | none => rest
  let (right, rest) ← tagEnd? rest
  some ((left, right), rest)

/-- Something in braces starts here. -/
def opensBrace : List Char → Bool
  | '{' :: c :: _ => c == '{' || c == '%' || c == '#'
  | _ => false

/-- The text up to the next brace that opens something. -/
def plainText : List Char → List Char × List Char
  | [] => ([], [])
  | c :: cs =>
      if opensBrace (c :: cs) then ([], c :: cs)
      else
        let (more, rest) := plainText cs
        (c :: more, rest)

/-- The rest of a comment: whether its end has a mark, and what follows. -/
def commentEnd? : List Char → Option (Bool × List Char)
  | [] => none
  | '-' :: '#' :: '}' :: rest => some (true, rest)
  | '#' :: '}' :: rest => some (false, rest)
  | _ :: cs => commentEnd? cs

/-- A comment with its marks. -/
def comment? (cs : List Char) : Option ((Bool × Bool) × List Char) :=
  match cs with
  | '{' :: '#' :: '-' :: rest => (commentEnd? rest).map fun (right, rest) => ((true, right), rest)
  | '{' :: '#' :: rest => (commentEnd? rest).map fun (right, rest) => ((false, right), rest)
  | _ => none

/-- Text up to the tag that ends a raw part: the text, the marks of that tag, the rest. -/
def rawText? : List Char → Option ((List Char × Bool × Bool) × List Char)
  | [] => none
  | c :: cs =>
      match bareTag? "endraw" (c :: cs) with
      | some ((left, right), rest) => some (([], left, right), rest)
      | none => (rawText? cs).map fun ((w, marks), rest) => ((c :: w, marks), rest)

/-- A raw part.  Its inner marks remove white space of its own text only. -/
def raw? (p : Place) (cs : List Char) : Option (Piece × List Char) := do
  let ((left, innerLeft), rest) ← bareTag? "raw" cs
  let ((w, innerRight, right), rest) ← rawText? rest
  let w := if p.heedsMarks && innerLeft then trimStart w else w
  let w := if p.heedsMarks && innerRight then trimEnd w else w
  some (.part left (some right) (some (.text (String.ofList w))), rest)

/-- A printed value. -/
def print? (cs : List Char) : Option (Piece × List Char) := do
  let (left, rest) ← printStart? cs
  let (e, rest) ← Expr.read? rest
  let (right, rest) ← printEnd? rest
  some (.part left (some right) (some (.print e)), rest)

/-- A call for the parent's block. -/
def parentBlock? (cs : List Char) : Option (Piece × List Char) := do
  let (_, rest) ← printStart? cs
  let rest ← after? "super()" rest
  let (_, rest) ← printEnd? rest
  some (.part false none (some .parentBlock), rest)

/-- An assignment that starts with the given word. -/
def assignment? (word : String) (isGlobal : Bool) (cs : List Char) : Option (Piece × List Char) := do
  let (left, rest) ← tag? word cs
  let (key, rest) ← ident? rest
  let rest ← after? "=" rest
  let (e, rest) ← Expr.read? rest
  let (right, rest) ← tagEnd? rest
  some (.part left (some right) (some (.assign key isGlobal e)), rest)

/-- Quoted texts between commas; a last comma may stand alone. -/
def quotedList : Nat → List Char → List String × List Char
  | 0, cs => ([], cs)
  | n + 1, cs =>
      match quoted? cs with
      | none => ([], cs)
      | some (s, rest) =>
          match after? "," rest with
          | none => ([s], rest)
          | some rest =>
              let (more, rest) := quotedList n rest
              (s :: more, rest)

/-- The names of one or several templates. -/
def templateNames? (cs : List Char) : Option (List String × List Char) :=
  match quoted? cs with
  | some (s, rest) => some ([s], rest)
  | none => do
      let rest ← after? "[" cs
      let (names, rest) := quotedList rest.length rest
      let rest ← after? "]" rest
      some (names, rest)

/-- The inclusion of another template. -/
def inclusion? (cs : List Char) : Option (Piece × List Char) := do
  let (left, rest) ← tag? "include" cs
  let (names, rest) ← templateNames? rest
  let (lenient, rest) :=
    match (after? "ignore" rest).bind (after? "missing") with
    | some rest => (true, rest)
    | none => (false, rest)
  let (right, rest) ← tagEnd? rest
  some (.part left (some right) (some (.inclusion names lenient)), rest)

/-- The import of the macros of another template. -/
def importTag? (cs : List Char) : Option (Piece × List Char) := do
  let (left, rest) ← tag? "import" (skipGap cs)
  let (file, rest) ← quoted? rest
  let rest ← after? "as" rest
  let (space, rest) ← ident? rest
  let (right, rest) ← tagEnd? rest
  some (.part left (some right) (some (.importMacros file space)), skipGap rest)

/-- The name of the template that this one inherits from. -/
def inheritanceTag? (cs : List Char) : Option (Piece × List Char) := do
  let (left, rest) ← tag? "extends" (skipGap cs)
  let (parent, rest) ← quoted? rest
  let (right, rest) ← tagEnd? rest
  some (.part left (some right) (some (.inheritance parent)), skipGap rest)

/-- A literal that may be the default of a macro's parameter. -/
def literal? (cs : List Char) : Option (Expr × List Char) :=
  ((truthValue? cs).map fun (b, rest) => (Expr.ofTerm (.bool b), rest))
    <|> ((quoted? cs).map fun (s, rest) => (Expr.ofTerm (.text s), rest))
    <|> ((float? cs).map fun (x, rest) => (Expr.ofTerm (.float x), rest))
    <|> ((int? cs).map fun (i, rest) => (Expr.ofTerm (.int i), rest))

/-- Parameters of a macro between commas. -/
def parameters : Nat → List Char → List (String × Option Expr) × List Char
  | 0, cs => ([], cs)
  | n + 1, cs =>
      match ident? cs with
      | none => ([], cs)
      | some (key, rest) =>
          let (default, rest) :=
            match (after? "=" rest).bind literal? with
            | some (e, rest) => (some e, rest)
            | none => (none, rest)
          match after? "," rest with
          | none => ([(key, default)], rest)
          | some rest =>
              let (more, rest) := parameters n rest
              ((key, default) :: more, rest)

/-- The name and parameters of a macro. -/
def macroHead? (cs : List Char) : Option ((String × Keyed (Option Expr)) × List Char) := do
  let (name, rest) ← ident? cs
  let rest ← after? "(" rest
  let (params, rest) := parameters rest.length rest
  let rest ← after? ")" rest
  some ((name, Keyed.ofPairs params), rest)

/-- The variables of a loop. -/
def loopVariables? (cs : List Char) : Option ((Option String × String) × List Char) := do
  let (first, rest) ← ident? cs
  match (after? "," rest).bind ident? with
  | some (second, rest) => some ((some first, second), rest)
  | none => some ((none, first), rest)

/-- What follows the body of a branch: whether the next tag removes white space before
it, the further cases, and whether the last tag removes white space after it. -/
structure BranchTail where
  left : Bool
  cases : List (Expr × List Node)
  otherwise : Option (List Node)
  right : Bool

mutual

/-- As many pieces as there are. -/
def pieces : Nat → Place → List Char → List Piece × List Char
  | 0, _, cs => ([], cs)
  | n + 1, p, cs =>
      match piece? n p cs with
      | none => ([], cs)
      | some (x, rest) =>
          let (more, rest) := pieces n p rest
          (x :: more, rest)

/-- One piece. -/
def piece? : Nat → Place → List Char → Option (Piece × List Char)
  | 0, _, _ => none
  | n + 1, p, cs =>
      (if p.atTop then importTag? cs else none)
        <|> (match plainText cs with
          | ([], _) => none
          | (w, rest) => some (Piece.text w, rest))
        <|> ((comment? cs).map fun ((left, right), rest) => (Piece.part left (some right) none, rest))
        <|> (if p.inBlock then parentBlock? cs else none)
        <|> print? cs
        <|> inclusion? cs
        <|> assignment? "set" false cs
        <|> assignment? "set_global" true cs
        <|> raw? p cs
        <|> (if p.inMacro then none else blockTag? n p cs)
        <|> branchTag? n p cs
        <|> loopTag? n p cs
        <|> filterTag? n p cs
        <|> (if p.atTop then macroTag? n p cs else none)
        <|> (if p.inLoop then
              (bareTag? "break" cs).map fun ((left, right), rest) =>
                (Piece.part left (some right) (some Node.leave), rest)
            else none)
        <|> (if p.inLoop then
              (bareTag? "continue" cs).map fun ((left, right), rest) =>
                (Piece.part left (some right) (some Node.skip), rest)
            else none)

/-- A block. -/
def blockTag? : Nat → Place → List Char → Option (Piece × List Char)
  | 0, _, _ => none
  | n + 1, p, cs => do
      let (left, rest) ← tag? "block" cs
      let (name, rest) ← ident? rest
      let (start, rest) ← tagEnd? rest
      let inner : Place := ⟨false, true, p.inLoop, p.inMacro, p.heedsMarks⟩
      let (body, rest) := pieces n inner rest
      let ((stop, right), rest) ← closingTag? "endblock" rest
      some (.part left (some right) (some (.block name (p.settle start stop body))), rest)

/-- A branch. -/
def branchTag? : Nat → Place → List Char → Option (Piece × List Char)
  | 0, _, _ => none
  | n + 1, p, cs => do
      let (left, rest) ← tag? "if" cs
      let (e, rest) ← Expr.logic? rest
      let (start, rest) ← tagEnd? rest
      let inner : Place := ⟨false, p.inBlock, p.inLoop, p.inMacro, p.heedsMarks⟩
      let (body, rest) := pieces n inner rest
      let (tail, rest) ← branchTail? n inner rest
      let first := (e, p.settle start tail.left body)
      some (.part left (some tail.right) (some (.branch (first :: tail.cases) tail.otherwise)), rest)

/-- Further cases of a branch and its end. -/
def branchTail? : Nat → Place → List Char → Option (BranchTail × List Char)
  | 0, _, _ => none
  | n + 1, p, cs =>
      (do
        let (left, rest) ← tag? "elif" cs
        let (e, rest) ← Expr.logic? rest
        let (start, rest) ← tagEnd? rest
        let (body, rest) := pieces n p rest
        let (tail, rest) ← branchTail? n p rest
        let case := (e, p.settle start tail.left body)
        some (⟨left, case :: tail.cases, tail.otherwise, tail.right⟩, rest))
        <|> (do
          let ((left, start), rest) ← bareTag? "else" cs
          let (body, rest) := pieces n p rest
          let ((stop, right), rest) ← bareTag? "endif" rest
          some (⟨left, [], some (p.settle start stop body), right⟩, rest))
        <|> (do
          let ((left, right), rest) ← bareTag? "endif" cs
          some (⟨left, [], none, right⟩, rest))

/-- A loop.  Marks do not count in the body for empty containers. -/
def loopTag? : Nat → Place → List Char → Option (Piece × List Char)
  | 0, _, _ => none
  | n + 1, p, cs => do
      let (left, rest) ← tag? "for" cs
      let ((key, value), rest) ← loopVariables? rest
      let rest ← after? "in" rest
      let (container, rest) ← Expr.iterated? rest
      let (start, rest) ← tagEnd? rest
      let inner : Place := ⟨false, p.inBlock, true, p.inMacro, p.heedsMarks⟩
      let (body, rest) := pieces n inner rest
      let (emptyBody, rest) :=
        match bareTag? "else" rest with
        | none => (none, rest)
        | some (_, rest) =>
            let (other, rest) := pieces n ⟨false, p.inBlock, true, p.inMacro, false⟩ rest
            (some (unsettled other), rest)
      let ((stop, right), rest) ← bareTag? "endfor" rest
      some (.part left (some right)
        (some (.loop key value container (p.settle start stop body) emptyBody)), rest)

/-- A filtered part. -/
def filterTag? : Nat → Place → List Char → Option (Piece × List Char)
  | 0, _, _ => none
  | n + 1, p, cs => do
      let (left, rest) ← tag? "filter" cs
      let (f, rest) ← Filter.read? rest
      let (start, rest) ← tagEnd? rest
      let inner : Place := ⟨false, p.inBlock, p.inLoop, p.inMacro, p.heedsMarks⟩
      let (body, rest) := pieces n inner rest
      let ((stop, right), rest) ← bareTag? "endfilter" rest
      some (.part left (some right) (some (.filtered f (p.settle start stop body))), rest)

/-- The definition of a macro. -/
def macroTag? : Nat → Place → List Char → Option (Piece × List Char)
  | 0, _, _ => none
  | n + 1, p, cs => do
      let (left, rest) ← tag? "macro" cs
      let ((name, params), rest) ← macroHead? rest
      let (start, rest) ← tagEnd? rest
      let (body, rest) := pieces n ⟨false, false, false, true, p.heedsMarks⟩ rest
      let ((stop, right), rest) ← closingTag? "endmacro" rest
      some (.part left (some right) (some (.macroDef name params (p.settle start stop body))), rest)

end

/-- Drop the comments at the start of a template, with a bound on their number. -/
def skipComments : Nat → List Char → List Char
  | 0, cs => cs
  | n + 1, cs =>
      match comment? cs with
      | some (_, rest) => skipComments n rest
      | none => cs

/-- The nodes of a template, if its text is well formed. -/
def Node.ofText? (source : String) : Option (List Node) :=
  let cs := source.toList
  let cs := skipComments cs.length cs
  let (first, rest) :=
    match inheritanceTag? cs with
    | some (x, rest) => ([x], rest)
    | none => ([], cs)
  match pieces (4 * (rest.length + 1)) Place.top rest with
  | (body, []) => some (Place.top.settle false false (first ++ body))
  | _ => none

end FormScaffold.Template
