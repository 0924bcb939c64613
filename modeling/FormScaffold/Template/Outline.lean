import FormScaffold.Json.Writer
import FormScaffold.Template.Tree

/-!
# Outlines of expressions

The tree of an expression as messages show it: constructors with their parts in
parentheses, and named parts in braces.
-/

namespace FormScaffold.Template

open FormScaffold FormScaffold.Json

/-- Named parts after a name. -/
def outlined (name : String) (parts : List (String × String)) : String :=
  name ++ " \x7b " ++ String.intercalate ", " (parts.map fun p => p.1 ++ ": " ++ p.2) ++ " \x7d"

/-- One part after a name. -/
def wrapped (name part : String) : String := name ++ "(" ++ part ++ ")"

/-- Parts in brackets. -/
def bracketList (parts : List String) : String := "[" ++ String.intercalate ", " parts ++ "]"

/-- Pairs in braces. -/
def braceList (parts : List (String × String)) : String :=
  "\x7b" ++ String.intercalate ", " (parts.map fun p => p.1 ++ ": " ++ p.2) ++ "\x7d"

/-- A text in quotes. -/
def inQuotes (s : String) : String := String.ofList (quoted s)

/-- A truth value. -/
def boolName (b : Bool) : String := if b then "true" else "false"

/-- The name of an operation on numbers. -/
def MathOp.outline : MathOp → String
  | .add => "Add"
  | .sub => "Sub"
  | .mul => "Mul"
  | .div => "Div"
  | .rem => "Modulo"

/-- The name of an operation with a truth value. -/
def LogicOp.outline : LogicOp → String
  | .greater => "Gt"
  | .greaterEq => "Gte"
  | .less => "Lt"
  | .lessEq => "Lte"
  | .equal => "Eq"
  | .notEqual => "NotEq"
  | .conj => "And"
  | .disj => "Or"

mutual

/-- The outline of a basic value. -/
def Term.outline : Term → String
  | .text s => wrapped "String" (inQuotes s)
  | .int n => wrapped "Int" (String.ofList (Decimal.Binary64.integerText n))
  | .float x => wrapped "Float" (String.ofList x.jsonText)
  | .bool b => wrapped "Bool" (boolName b)
  | .name p => wrapped "Ident" (inQuotes p)
  | .math op l r =>
      wrapped "Math" (outlined "MathExpr"
        [("lhs", l.outline), ("rhs", r.outline), ("operator", op.outline)])
  | .logic op l r =>
      wrapped "Logic" (outlined "LogicExpr"
        [("lhs", l.outline), ("rhs", r.outline), ("operator", op.outline)])
  | .member negated l r =>
      wrapped "In" (outlined "In"
        [("lhs", l.outline), ("rhs", r.outline), ("negated", boolName negated)])
  | .test subject negated name args =>
      wrapped "Test" (outlined "Test"
        [("ident", inQuotes subject), ("negated", boolName negated), ("name", inQuotes name),
         ("args", bracketList (exprOutlines args))])
  | .call name args =>
      wrapped "FunctionCall" (outlined "FunctionCall"
        [("name", inQuotes name), ("args", braceList (argOutlines args))])
  | .macroCall space name args =>
      wrapped "MacroCall" (outlined "MacroCall"
        [("namespace", inQuotes space), ("name", inQuotes name), ("args", braceList (argOutlines args))])
  | .array items => wrapped "Array" (bracketList (exprOutlines items))
  | .concat parts =>
      wrapped "StringConcat" (outlined "StringConcat" [("values", bracketList (termOutlines parts))])

/-- The outline of an expression. -/
def Expr.outline : Expr → String
  | .mk t negated fs =>
      outlined "Expr"
        [("val", t.outline), ("negated", boolName negated), ("filters", bracketList (filterOutlines fs))]

/-- The outline of a filter. -/
def Filter.outline : Filter → String
  | .mk name args =>
      outlined "FunctionCall" [("name", inQuotes name), ("args", braceList (argOutlines args))]

/-- Outlines of basic values. -/
def termOutlines : List Term → List String
  | [] => []
  | t :: ts => t.outline :: termOutlines ts

/-- Outlines of expressions. -/
def exprOutlines : List Expr → List String
  | [] => []
  | e :: es => e.outline :: exprOutlines es

/-- Outlines of filters. -/
def filterOutlines : List Filter → List String
  | [] => []
  | f :: fs => f.outline :: filterOutlines fs

/-- Outlines of named arguments. -/
def argOutlines : List (String × Expr) → List (String × String)
  | [] => []
  | (k, e) :: rest => (inQuotes k, e.outline) :: argOutlines rest

end

end FormScaffold.Template
