import FormScaffold.Decimal.Binary64

/-!
# Trees of templates

A template is a sequence of nodes: text, values to print, assignments, branches,
loops, and calls of other parts.  Values are given by expressions; an expression is a
basic value that may be passed through filters and then negated.
-/

namespace FormScaffold.Template

open FormScaffold.Decimal

/-- An operation on numbers. -/
inductive MathOp where
  | add
  | sub
  | mul
  | div
  | rem
  deriving DecidableEq, Repr

/-- An operation with a truth value. -/
inductive LogicOp where
  | greater
  | greaterEq
  | less
  | lessEq
  | equal
  | notEqual
  | conj
  | disj
  deriving DecidableEq, Repr

mutual

/-- A basic value. -/
inductive Term where
  | text (s : String)
  | int (n : Int)
  | float (x : Binary64)
  | bool (b : Bool)
  | name (path : String)
  | math (op : MathOp) (left right : Expr)
  | logic (op : LogicOp) (left right : Expr)
  | member (negated : Bool) (item container : Expr)
  | test (subject : String) (negated : Bool) (name : String) (args : List Expr)
  | call (name : String) (args : List (String × Expr))
  | macroCall (space name : String) (args : List (String × Expr))
  | array (items : List Expr)
  | concat (parts : List Term)

/-- A basic value, passed through filters and perhaps negated. -/
inductive Expr where
  | mk (term : Term) (negated : Bool) (filters : List Filter)

/-- A filter with its arguments. -/
inductive Filter where
  | mk (name : String) (args : List (String × Expr))

end

instance : Inhabited Term := ⟨.bool false⟩
instance : Inhabited Expr := ⟨.mk default false []⟩

namespace Filter

/-- The name of a filter. -/
def name : Filter → String
  | .mk n _ => n

/-- The arguments of a filter. -/
def args : Filter → List (String × Expr)
  | .mk _ as => as

end Filter

namespace Expr

/-- A value that is used as it is. -/
def ofTerm (t : Term) : Expr := .mk t false []

/-- The value before filters and negation. -/
def term : Expr → Term
  | .mk t _ _ => t

/-- The filters in the order of use. -/
def filters : Expr → List Filter
  | .mk _ _ fs => fs

/-- The same value with or without negation. -/
def withNegation (negated : Bool) : Expr → Expr
  | .mk t _ fs => .mk t negated fs

end Expr

/-- One part of a template. -/
inductive Node where
  | text (s : String)
  | print (e : Expr)
  | assign (key : String) (isGlobal : Bool) (value : Expr)
  | filtered (filter : Filter) (body : List Node)
  | branch (cases : List (Expr × List Node)) (otherwise : Option (List Node))
  | loop (key : Option String) (value : String) (container : Expr) (body : List Node)
      (emptyBody : Option (List Node))
  | leave
  | skip
  | block (name : String) (body : List Node)
  | parentBlock
  | inclusion (names : List String) (ignoreMissing : Bool)
  | inheritance (parent : String)
  | importMacros (file space : String)
  | macroDef (name : String) (params : List (String × Option Expr)) (body : List Node)

/-- A macro: its parameters, some with a default, and its body. -/
structure Macro where
  name : String
  params : List (String × Option Expr)
  body : List Node

end FormScaffold.Template
