import FormScaffold.Keyed
import FormScaffold.Template.Lexeme

/-!
# Expressions from text

A reader for each layer of an expression: basic values, sums and products, filters,
comparisons, memberships, and logical combinations.  Alternatives are tried in a fixed
order, and one that was taken is kept.  Each reader has a bound on its depth; the
bound of `Expr.read?` exceeds what its text can need.
-/

namespace FormScaffold.Template

open FormScaffold FormScaffold.Decimal

/-- Finish an operation that waits for its right operand. -/
def joinPending {ω α : Type} (join : ω → α → α → α) (pending : Option (α × ω)) (right : α) : α :=
  match pending with
  | none => right
  | some (left, op) => join op left right

/-- Put operands together from the left, those at tight operators first. -/
def climb {ω α : Type} (tight : ω → Bool) (join : ω → α → α → α) (first : α)
    (rest : List (ω × α)) : α :=
  let final := rest.foldl (fun (s : Option (α × ω) × α) p =>
    if tight p.1 then (s.1, join p.1 s.2 p.2)
    else (some (joinPending join s.1 s.2, p.1), p.2)) (none, first)
  joinPending join final.1 final.2

/-- The first of some fixed parts with which the text goes on. -/
def oneOf? {α : Type} (table : List (String × α)) (cs : List Char) : Option (α × List Char) :=
  table.findSome? fun (part, a) => (after? part cs).map fun rest => (a, rest)

/-- Multiplication, division and remainder come before addition. -/
def MathOp.isTight : MathOp → Bool
  | .mul | .div | .rem => true
  | .add | .sub => false

/-- A sign of arithmetic. -/
def mathOp? : List Char → Option (MathOp × List Char) :=
  oneOf? [("+", .add), ("-", .sub), ("*", .mul), ("/", .div), ("%", .rem)]

/-- A sign of comparison. -/
def comparison? : List Char → Option (LogicOp × List Char) :=
  oneOf? [("<=", .lessEq), (">=", .greaterEq), (">", .greater), ("<", .less), ("==", .equal),
    ("!=", .notEqual)]

/-- A logical connective. -/
def connective? (cs : List Char) : Option (LogicOp × List Char) :=
  match spacedWord? "or" cs, spacedWord? "and" cs with
  | some rest, _ => some (.disj, rest)
  | _, some rest => some (.conj, rest)
  | _, _ => none

/-- An operation on bare values. -/
def joinTerms (op : MathOp) (l r : Term) : Term := .math op (.ofTerm l) (.ofTerm r)

/-- An operation on filtered values. -/
def joinExprs (op : MathOp) (l r : Expr) : Expr := .ofTerm (.math op l r)

/-- A comparison or a logical combination. -/
def joinLogic (op : LogicOp) (l r : Expr) : Expr := .ofTerm (.logic op l r)

/-- The word for negation, if the text goes on with it. -/
def negation (cs : List Char) : Bool × List Char :=
  match spacedWord? "not" cs with
  | some rest => (true, rest)
  | none => (false, cs)

mutual

/-- A value of an argument, an assignment or a printed expression. -/
def value? : Nat → List Char → Option (Expr × List Char)
  | 0, _ => none
  | n + 1, cs =>
      match logicExpr? n cs with
      | some r => some r
      | none => arrayExpr? n cs

/-- Named arguments; of two with one name the later counts. -/
def argsFrom : Nat → Keyed Expr → List Char → Keyed Expr × List Char
  | 0, args, cs => (args, cs)
  | n + 1, args, cs =>
      match arg? n cs with
      | none => (args, cs)
      | some ((key, e), rest) =>
          match after? "," rest with
          | some rest => argsFrom n (Keyed.insert key e args) rest
          | none => (Keyed.insert key e args, rest)

/-- One named argument. -/
def arg? : Nat → List Char → Option ((String × Expr) × List Char)
  | 0, _ => none
  | n + 1, cs => do
      let (key, rest) ← ident? cs
      let rest ← after? "=" rest
      let (e, rest) ← value? n rest
      some ((key, e), rest)

/-- A name with arguments in parentheses. -/
def call? : Nat → List Char → Option ((String × Keyed Expr) × List Char)
  | 0, _ => none
  | n + 1, cs => do
      let (name, rest) ← ident? cs
      let rest ← after? "(" rest
      let (args, rest) := argsFrom n [] rest
      let rest ← after? ")" rest
      some ((name, args), rest)

/-- A filter without its bar. -/
def filter? : Nat → List Char → Option (Filter × List Char)
  | 0, _ => none
  | n + 1, cs =>
      match call? n cs with
      | some ((name, args), rest) => some (.mk name args, rest)
      | none => (ident? cs).map fun (name, rest) => (.mk name [], rest)

/-- Filters, each after a bar. -/
def filtersFrom : Nat → List Char → List Filter × List Char
  | 0, cs => ([], cs)
  | n + 1, cs =>
      match after? "|" cs with
      | none => ([], cs)
      | some rest =>
          match filter? n rest with
          | none => ([], cs)
          | some (f, rest) =>
              let (more, rest) := filtersFrom n rest
              (f :: more, rest)

/-- Arguments of a test, without names. -/
def testArgsFrom : Nat → List Char → Option ((List Expr) × List Char)
  | 0, _ => none
  | n + 1, cs => do
      let (e, rest) ← value? n cs
      match after? "," rest with
      | none => some ([e], rest)
      | some next =>
          match testArgsFrom n next with
          | some (more, rest) => some (e :: more, rest)
          | none => some ([e], rest)

/-- The name of a test with its arguments. -/
def testCall? : Nat → List Char → Option ((String × List Expr) × List Char)
  | 0, _ => none
  | n + 1, cs => do
      let (name, rest) ← ident? cs
      match (do
        let rest ← after? "(" rest
        let (args, rest) ← testArgsFrom n rest
        let rest ← after? ")" rest
        some (args, rest)) with
      | some (args, rest) => some ((name, args), rest)
      | none => some ((name, []), rest)

/-- A test of a name. -/
def test? : Nat → Bool → List Char → Option (Term × List Char)
  | 0, _, _ => none
  | n + 1, negated, cs => do
      let (subject, rest) ← name? cs
      let rest ← after? "is" rest
      let rest ← if negated then after? "not" rest else some rest
      let ((name, args), rest) ← testCall? n rest
      some (.test subject negated name args, rest)

/-- A call of a macro. -/
def macroCall? : Nat → List Char → Option (Term × List Char)
  | 0, _ => none
  | n + 1, cs => do
      let (space, rest) ← ident? cs
      let rest ← after? "::" rest
      let ((name, args), rest) ← call? n rest
      some (.macroCall space name args, rest)

/-- A call of a function. -/
def functionCall? : Nat → List Char → Option (Term × List Char)
  | 0, _ => none
  | n + 1, cs => (call? n cs).map fun ((name, args), rest) => (.call name args, rest)

/-- A basic value that is no text. -/
def basicValue? : Nat → List Char → Option (Term × List Char)
  | 0, _ => none
  | n + 1, cs =>
      ((truthValue? cs).map fun (b, rest) => (Term.bool b, rest))
        <|> test? n true cs
        <|> test? n false cs
        <|> macroCall? n cs
        <|> functionCall? n cs
        <|> ((name? cs).map fun (w, rest) => (Term.name w, rest))
        <|> ((float? cs).map fun (x, rest) => (Term.float x, rest))
        <|> ((int? cs).map fun (i, rest) => (Term.int i, rest))

/-- An operand of arithmetic: in parentheses, or basic. -/
def operand? : Nat → List Char → Option (Term × List Char)
  | 0, _ => none
  | n + 1, cs =>
      (do
        let rest ← after? "(" cs
        let (t, rest) ← basicExpr? n rest
        let rest ← after? ")" rest
        some (t, rest))
        <|> basicValue? n cs

/-- Further operands of arithmetic. -/
def operandsFrom : Nat → List Char → List (MathOp × Term) × List Char
  | 0, cs => ([], cs)
  | n + 1, cs =>
      match (do
        let (op, rest) ← mathOp? cs
        let (t, rest) ← operand? n rest
        some ((op, t), rest)) with
      | none => ([], cs)
      | some (p, rest) =>
          let (more, rest) := operandsFrom n rest
          (p :: more, rest)

/-- Arithmetic on basic values. -/
def basicExpr? : Nat → List Char → Option (Term × List Char)
  | 0, _ => none
  | n + 1, cs => do
      let (first, rest) ← operand? n cs
      let (more, rest) := operandsFrom n rest
      some (climb MathOp.isTight joinTerms first more, rest)

/-- Arithmetic, passed through filters. -/
def filteredExpr? : Nat → List Char → Option (Expr × List Char)
  | 0, _ => none
  | n + 1, cs => do
      let (t, rest) ← basicExpr? n cs
      let (fs, rest) := filtersFrom n rest
      some (.mk t false fs, rest)

/-- A part of a concatenation. -/
def part? : Nat → List Char → Option (Term × List Char)
  | 0, _ => none
  | n + 1, cs =>
      functionCall? n cs
        <|> ((float? cs).map fun (x, rest) => (Term.float x, rest))
        <|> ((int? cs).map fun (i, rest) => (Term.int i, rest))
        <|> ((quoted? cs).map fun (s, rest) => (Term.text s, rest))
        <|> ((name? cs).map fun (w, rest) => (Term.name w, rest))

/-- Further parts of a concatenation. -/
def partsFrom : Nat → List Char → List Term × List Char
  | 0, cs => ([], cs)
  | n + 1, cs =>
      match (do
        let rest ← after? "~" cs
        part? n rest) with
      | none => ([], cs)
      | some (t, rest) =>
          let (more, rest) := partsFrom n rest
          (t :: more, rest)

/-- A concatenation, of two parts at least, or a quoted text. -/
def textTerm? : Nat → List Char → Option (Term × List Char)
  | 0, _ => none
  | n + 1, cs =>
      (do
        let (first, rest) ← part? n cs
        let (more, rest) := partsFrom n rest
        if more.isEmpty then none else some (.concat (first :: more), rest))
        <|> ((quoted? cs).map fun (s, rest) => (Term.text s, rest))

/-- A text, passed through filters. -/
def textExpr? : Nat → List Char → Option (Expr × List Char)
  | 0, _ => none
  | n + 1, cs => do
      let (t, rest) ← textTerm? n cs
      let (fs, rest) := filtersFrom n rest
      some (.mk t false fs, rest)

/-- Further filtered operands of arithmetic. -/
def filteredFrom : Nat → List Char → List (MathOp × Expr) × List Char
  | 0, cs => ([], cs)
  | n + 1, cs =>
      match (do
        let (op, rest) ← mathOp? cs
        let (e, rest) ← filteredExpr? n rest
        some ((op, e), rest)) with
      | none => ([], cs)
      | some (p, rest) =>
          let (more, rest) := filteredFrom n rest
          (p :: more, rest)

/-- One side of a comparison. -/
def side? : Nat → List Char → Option (Expr × List Char)
  | 0, _ => none
  | n + 1, cs =>
      textExpr? n cs
        <|> (do
          let (first, rest) ← filteredExpr? n cs
          let (more, rest) := filteredFrom n rest
          some (climb MathOp.isTight joinExprs first more, rest))

/-- A comparison, or one side alone. -/
def comparisonExpr? : Nat → List Char → Option (Expr × List Char)
  | 0, _ => none
  | n + 1, cs => do
      let (left, rest) ← side? n cs
      match (do
        let (op, rest) ← comparison? rest
        let (right, rest) ← side? n rest
        some (joinLogic op left right, rest)) with
      | some r => some r
      | none => some (left, rest)

/-- What a membership looks into. -/
def container? : Nat → List Char → Option (Expr × List Char)
  | 0, _ => none
  | n + 1, cs =>
      textExpr? n cs
        <|> arrayExpr? n cs
        <|> ((name? cs).map fun (w, rest) => (Expr.ofTerm (.name w), rest))

/-- A membership. -/
def membership? : Nat → List Char → Option (Expr × List Char)
  | 0, _ => none
  | n + 1, cs => do
      let (item, rest) ← textExpr? n cs <|> filteredExpr? n cs
      let (negated, rest) := negation rest
      let rest ← after? "in" rest
      let (container, rest) ← container? n rest
      some (.ofTerm (.member negated item container), rest)

/-- An operand of a logical combination.  Negation does not reach into parentheses. -/
def logicValue? : Nat → List Char → Option (Expr × List Char)
  | 0, _ => none
  | n + 1, cs =>
      let (negated, rest) := negation cs
      match membership? n rest <|> comparisonExpr? n rest with
      | some (e, rest) => some (e.withNegation negated, rest)
      | none => do
          let rest ← after? "(" cs
          let (e, rest) ← logicExpr? n rest
          let rest ← after? ")" rest
          some (e.withNegation false, rest)

/-- Further operands of a logical combination. -/
def logicFrom : Nat → List Char → List (LogicOp × Expr) × List Char
  | 0, cs => ([], cs)
  | n + 1, cs =>
      match (do
        let (op, rest) ← connective? cs
        let (e, rest) ← logicValue? n rest
        some ((op, e), rest)) with
      | none => ([], cs)
      | some (p, rest) =>
          let (more, rest) := logicFrom n rest
          (p :: more, rest)

/-- A logical combination. -/
def logicExpr? : Nat → List Char → Option (Expr × List Char)
  | 0, _ => none
  | n + 1, cs => do
      let (first, rest) ← logicValue? n cs
      let (more, rest) := logicFrom n rest
      some (climb (· == .conj) joinLogic first more, rest)

/-- Items of an array. -/
def itemsFrom : Nat → List Char → List Expr × List Char
  | 0, cs => ([], cs)
  | n + 1, cs =>
      match logicExpr? n cs with
      | none => ([], cs)
      | some (e, rest) =>
          match after? "," rest with
          | none => ([e], rest)
          | some rest =>
              let (more, rest) := itemsFrom n rest
              (e :: more, rest)

/-- An array, passed through filters. -/
def arrayExpr? : Nat → List Char → Option (Expr × List Char)
  | 0, _ => none
  | n + 1, cs => do
      let rest ← after? "[" cs
      let (es, rest) := itemsFrom n rest
      let rest ← after? "]" rest
      let (fs, rest) := filtersFrom n rest
      some (.mk (.array es) false fs, rest)

end

/-- Layers that one character of a text may open. -/
def layersPerChar : Nat := 24

/-- A depth that no reading of the text reaches. -/
def depthBound (cs : List Char) : Nat := layersPerChar * (cs.length + 1)

/-- A logical expression. -/
def Expr.logic? (cs : List Char) : Option (Expr × List Char) := logicExpr? (depthBound cs) cs

/-- A logical expression or an array. -/
def Expr.read? (cs : List Char) : Option (Expr × List Char) := value? (depthBound cs) cs

/-- What a loop goes over. -/
def Expr.iterated? (cs : List Char) : Option (Expr × List Char) :=
  filteredExpr? (depthBound cs) cs <|> arrayExpr? (depthBound cs) cs

/-- A filter without its bar. -/
def Filter.read? (cs : List Char) : Option (Filter × List Char) := filter? (depthBound cs) cs

end FormScaffold.Template
