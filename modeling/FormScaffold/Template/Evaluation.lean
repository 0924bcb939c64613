import FormScaffold.Template.Filters.Table
import FormScaffold.Template.Functions
import FormScaffold.Template.Outline
import FormScaffold.Template.Scope
import FormScaffold.Template.Tests

/-!
# Values of expressions

An expression has a value in the state of a rendering.  It may also be asked whether it
holds, or for a number, and these questions have rules of their own: in them filters of
basic values do not count, and names that are not defined are false.
-/

namespace FormScaffold.Template

open FormScaffold FormScaffold.Json FormScaffold.Text FormScaffold.Decimal

/-- What does not change during a rendering. -/
structure Surroundings where
  library : Library
  given : Keyed Value
  template : String
  root : String
  parents : List String
  world : Functions.World

/-- A block under way: its name, the template it is taken from, and how many templates
up the line of inheritance that is. -/
structure ActiveBlock where
  name : String
  template : String
  level : Nat

/-- What changes during a rendering. -/
structure RenderState where
  frames : List Frame
  blocks : List ActiveBlock
  macros : MacroTable
  escaping : Bool

/-- Why a rendering fails: a text and the texts of its causes. -/
abbrev Fault := List String

/-- A step of a rendering.  A failure keeps the state in which it arose. -/
abbrev Run := ExceptT Fault (StateM RenderState)

/-- Fail with a text. -/
def fail {α : Type} (text : String) : Run α := throw [text]

/-- A result or a failure of one text. -/
def orFail {α : Type} : Except String α → Run α
  | .ok a => pure a
  | .error text => fail text

/-- The outcome of a step, also of one that fails. -/
def outcome {α : Type} (r : Run α) : Run (Except Fault α) := fun s =>
  let (result, s) := r s
  (.ok result, s)

/-- A step whose failures are explained by a text. -/
def explained {α : Type} (text : String) (r : Run α) : Run α := do
  match ← outcome r with
  | .ok a => pure a
  | .error causes => throw (text :: causes)

/-- A step in which no text is made safe for markup. -/
def unescaped {α : Type} (r : Run α) : Run α := do
  let escaping := (← get).escaping
  modify fun s => { s with escaping := false }
  let result ← outcome r
  modify fun s => { s with escaping := escaping }
  match result with
  | .ok a => pure a
  | .error f => throw f

/-- The template to which the topmost frame belongs. -/
def RenderState.activeTemplate (s : RenderState) : String :=
  match s.frames with
  | f :: _ => f.template
  | [] => ""

/-- The value of a name. -/
def lookUp (w : Surroundings) (path : String) : Run Value := do
  let s ← get
  if path == everythingName then
    pure (.string (Value.object (visibleIn w.given s.frames)).prettyText)
  else
    orFail (resolve w.given s.frames s.activeTemplate (path.length + 1) path.toList)

/-- A double as a value, if there is one. -/
def doubleValue? (x : Option Binary64) : Option Number := x.map .float

/-- Bounds of integers. -/
inductive IntegerRange where
  | signed
  | unsigned

/-- The integer lies in the range. -/
def IntegerRange.holds (r : IntegerRange) (n : Int) : Bool :=
  match r with
  | .signed => decide (-(Nat.pow 2 63 : Int) ≤ n) && decide (n < Nat.pow 2 63)
  | .unsigned => decide (0 ≤ n) && decide (n < Nat.pow 2 64)

/-- The name of a range in messages. -/
def IntegerRange.name : IntegerRange → String
  | .signed => "i64"
  | .unsigned => "u64"

/-- The range in which two integers are combined, if both fit in one. -/
def commonRange? : Number → Number → Option (IntegerRange × Int × Int)
  | .int m, .int n =>
      if IntegerRange.signed.holds m && IntegerRange.signed.holds n then some (.signed, m, n)
      else if IntegerRange.unsigned.holds m && IntegerRange.unsigned.holds n then
        some (.unsigned, m, n)
      else none
  | _, _ => none

/-- The result of an operation on integers, which has to stay in their range. -/
def inRange (r : IntegerRange) (sign : String) (m n result : Int) : Except String (Option Number) :=
  if r.holds result then .ok (some (.int result))
  else
    .error (toString m ++ " " ++ sign ++ " " ++ toString n ++ " results in an out of bounds " ++ r.name)

/-- The result of an operation on numbers; none stands for what is no number. -/
def MathOp.apply (op : MathOp) (l r : Expr) (x y : Number) : Except String (Option Number) :=
  match op with
  | .div =>
      .ok ((x.toDouble.div? y.toDouble).map fun q =>
        if q.isInteger then .int (Filters.longOfDouble q) else .float q)
  | .add =>
      match commonRange? x y with
      | some (range, m, n) => inRange range "+" m n (m + n)
      | none => .ok (doubleValue? (x.toDouble.add? y.toDouble))
  | .sub =>
      match commonRange? x y with
      | some (range, m, n) => inRange range "-" m n (m - n)
      | none => .ok (doubleValue? (x.toDouble.sub? y.toDouble))
  | .mul =>
      match commonRange? x y with
      | some (range, m, n) => inRange range "x" m n (m * n)
      | none => .ok (doubleValue? (x.toDouble.mul? y.toDouble))
  | .rem =>
      match commonRange? x y with
      | some (_, m, n) =>
          if n == 0 then
            .error ("Tried to do a modulo by zero: " ++ l.outline ++ "/" ++ r.outline)
          else .ok (some (.int (Int.tmod m n)))
      | none => .ok (doubleValue? (x.toDouble.rem? y.toDouble))

/-- Comparison of two numbers. -/
def LogicOp.compare (op : LogicOp) (x y : Binary64) : Bool :=
  match op with
  | .greater => y.lt x
  | .greaterEq => !x.lt y
  | .less => x.lt y
  | .lessEq => !y.lt x
  | _ => false

/-- Equality or its opposite; a number and something else are neither. -/
def LogicOp.equate (op : LogicOp) (v w : Value) : Option Bool :=
  let asked (b : Bool) : Bool := if op == .notEqual then !b else b
  match v, w with
  | .number x, .number y => some (asked (x.toDouble.eqValue y.toDouble))
  | .number _, _ => none
  | _, .number _ => none
  | _, _ => some (asked (v.same w))

/-- A value is in a container. -/
def isIn (item container : Value) : Except String Bool :=
  match container with
  | .array items => .ok (items.any fun v => v.same item)
  | .string s =>
      match item with
      | .string t => .ok (occurs t.toList s.toList)
      | v => .error ("Tried to check if " ++ debugText v ++ " is in a string, but it isn't a string")
  | .object members =>
      match item with
      | .string t => .ok (Keyed.contains t members)
      | v => .error ("Tried to check if " ++ debugText v ++ " is in a object, but it isn't a string")
  | _ => .error "The `in` operator only supports strings, arrays and objects."
where
  /-- A value that is no text, as messages show it. -/
  debugText : Value → String
    | .null => "Null"
    | .bool b => wrapped "Bool" (boolName b)
    | .number n => wrapped "Number" (String.ofList n.text)
    | .string s => wrapped "String" (inQuotes s)
    | .array items => "Array " ++ bracketList (items.map Value.text)
    | .object ms => "Object " ++ (Value.object ms).text

/-- A part of a concatenation as text. -/
def concatText? : Value → Option String
  | .string s => some s
  | .number n => some (String.ofList n.text)
  | _ => none

/-- The first filter gives a value for what is not defined. -/
def hasDefault : List Filter → Bool
  | f :: _ => f.name == "default"
  | [] => false

/-- The last filter keeps the result as it is. -/
def isMarkedSafe (fs : List Filter) : Bool :=
  match fs.getLast? with
  | some f => f.name == "safe"
  | none => false

/-- What a value passes through after its filters: negation, or escaping. -/
def finished (negated : Bool) (fs : List Filter) (v : Value) (escapable : Bool) : Run Value := do
  if negated then pure (.bool (!isTruthy v))
  else
    match v with
    | .string s =>
        if (← get).escaping && escapable && !isMarkedSafe fs then pure (.string (escapedText s))
        else pure v
    | v => pure v

/-- How the value of a basic value is found. -/
inductive TermRule where
  | name (path : String)
  | plain
  | truth
  | number

/-- The rule for a basic value. -/
def Term.rule : Term → TermRule
  | .name p => .name p
  | .logic _ _ _ => .truth
  | .math _ _ _ | .int _ | .float _ => .number
  | _ => .plain

/-- The basic value is a concatenation. -/
def Term.isConcat : Term → Bool
  | .concat _ => true
  | _ => false

/-- The failure of arithmetic with something that is no number. -/
def mathFault (kind shown : String) : String := "Tried to do math with a " ++ kind ++ ": " ++ shown

/-- A part of a concatenation in messages. -/
def Term.shownPart : Term → String
  | .text s => "'" ++ s ++ "'"
  | .name p => p
  | _ => "unknown"

/-- The value of a literal. -/
def Expr.literalValue : Expr → Value
  | .mk (.text s) _ _ => .string s
  | .mk (.int n) _ _ => .ofInt n
  | .mk (.float x) _ _ => .number (.float x)
  | .mk (.bool b) _ _ => .bool b
  | _ => .null

/-- The values of the parameters of a macro: from a call, or their defaults. -/
def bindParameters (m : Macro) (given : Keyed Value) : Except String (Keyed Value) :=
  m.params.mapM fun (key, default) =>
    match Keyed.get? key given, default with
    | some v, _ => .ok (key, v)
    | none, some e => .ok (key, e.literalValue)
    | none, none =>
        .error ("Macro " ++ backquoted m.name ++ " is missing the argument " ++ backquoted key)

/-- What the parts of an expression come to, each as a step that can be run. -/
structure Parts where
  plain : Run (Value × Bool)
  truth : Run (Option Bool)
  number : Run (Option Number)
  default : Run Value
  filtered : Value → Bool → Run (Value × Bool)

/-- The value of an expression from its parts. -/
def Parts.value (p : Parts) (w : Surroundings) (rule : TermRule) (negated : Bool)
    (fs : List Filter) : Run Value := do
  let start : Option (Value × Bool) ← match rule with
    | .name path => do
        let found ← outcome (lookUp w path)
        match found with
        | .ok .null =>
            if hasDefault fs then
              let v ← p.default
              pure (some (v, true))
            else pure (some (.null, true))
        | .ok v => pure (some (v, path != everythingName))
        | .error f =>
            if hasDefault fs then
              let v ← p.default
              pure (some (v, true))
            else if negated then pure none
            else throw f
    | .plain => some <$> p.plain
    | .truth => do
        let b ← p.truth
        pure (some (.bool (match b with
          | some b => b != negated
          | none => false), false))
    | .number => do
        match ← outcome p.number with
        | .ok (some n) => pure (some (.number n, false))
        | .ok none => pure (some (.string "NaN", false))
        | .error f => throw (f.take 1)
  match start with
  | none => pure (.bool true)
  | some (v, escapable) => do
      let (v, escapable) ← p.filtered v escapable
      finished negated fs v escapable

/-- Whether an expression holds, from its parts. -/
def Parts.holds (p : Parts) (w : Surroundings) (t : Term) (negated : Bool) (fs : List Filter) :
    Run Bool := do
  match t.rule with
  | .name path => do
      match ← outcome (p.value w (.name path) negated fs) with
      | .ok v => pure (isTruthy v)
      | .error _ => pure false
  | .number => do
      match ← p.number with
      | some n => pure (n.toDouble.isZero == negated)
      | none => pure negated
  | .plain | .truth =>
      if t.isConcat then do
        match ← p.value w .plain negated fs with
        | .string s => pure (s.isEmpty == negated)
        | _ => fail ""
      else do
        match ← p.truth with
        | some b => pure (b != negated)
        | none => pure false

/-- The number of an expression, from its parts. -/
def Parts.asNumber (p : Parts) (w : Surroundings) (rule : TermRule) (negated : Bool)
    (fs : List Filter) : Run (Option Number) := do
  if fs.isEmpty then p.number
  else
    match ← p.value w rule negated fs with
    | .number n => pure (some n)
    | _ => fail "Tried to do math with an expression not resulting in a number"

/-- Look up a test. -/
def findTest (name : String) : Run Tests.TestFunction :=
  match Tests.all.lookup name with
  | some t => pure t
  | none => fail ("Test '" ++ name ++ "' not found")

/-- Look up a function. -/
def findFunction (name : String) : Run Functions.TemplateFunction :=
  match Functions.all.lookup name with
  | some f => pure f
  | none => fail ("Function '" ++ name ++ "' not found")

/-- Look up a filter. -/
def findFilter (name : String) : Run Filters.FilterFunction :=
  match Filters.all.lookup name with
  | some f => pure f
  | none => fail ("Filter '" ++ name ++ "' not found")

/-- Call a function with arguments that are still to be evaluated. -/
def applyFunction (w : Surroundings) (name : String) (args : Run (List (String × Value))) :
    Run Value := do
  let f ← findFunction name
  explained ("Function call '" ++ name ++ "' failed") (do
    let values ← args
    orFail (f w.world (Keyed.ofPairs values)))

/-- Test a name with arguments that are still to be evaluated. -/
def applyTest (w : Surroundings) (subject name : String) (args : Run (List Value)) : Run Bool := do
  let t ← findTest name
  explained ("Test call '" ++ name ++ "' failed") (do
    let values ← args
    let v ← match ← outcome (lookUp w subject) with
      | .ok v => pure (some v)
      | .error _ => pure none
    orFail (t v values))

/-- Render the body of a macro with its parameters. -/
def runMacro (render : List Node → Run String) (space name file : String) (m : Macro)
    (values : Keyed Value) : Run String := do
  modify fun s => { s with frames := ⟨.macroCall space name, file, values, none⟩ :: s.frames }
  let text ← render m.body
  modify fun s => { s with frames := s.frames.drop 1 }
  pure text

/-- The template whose imports decide what a macro's name means. -/
def macroContext (w : Surroundings) : Run String := do
  let s ← get
  match s.blocks with
  | b :: _ => pure b.template
  | [] => pure (if w.template != w.root then w.root else s.activeTemplate)

/-- Call a macro with arguments that are still to be evaluated. -/
def applyMacro (w : Surroundings) (render : List Node → Run String) (space name : String)
    (args : List String → Run (List (String × Value))) : Run String := do
  let context ← macroContext w
  let (file, m) ← orFail ((← get).macros.find context space name)
  let given ← args (m.params.map Prod.fst)
  let values ← orFail (bindParameters m (Keyed.ofPairs given))
  runMacro render space name file m values

section

variable (w : Surroundings) (render : List Node → Run String)

mutual

/-- The value of an expression. -/
def evalExpr : Expr → Run Value
  | .mk t negated fs =>
      Parts.value
        ⟨evalTerm t, truthOfTerm t, numberOfTerm t, defaultValue fs, applyFilters fs⟩
        w t.rule negated fs

/-- Whether an expression holds. -/
def truthOf : Expr → Run Bool
  | .mk t negated fs =>
      Parts.holds
        ⟨evalTerm t, truthOfTerm t, numberOfTerm t, defaultValue fs, applyFilters fs⟩
        w t negated fs

/-- The number of an expression; none stands for what is no number. -/
def numberOf : Expr → Run (Option Number)
  | .mk t negated fs =>
      Parts.asNumber
        ⟨evalTerm t, truthOfTerm t, numberOfTerm t, defaultValue fs, applyFilters fs⟩
        w t.rule negated fs

/-- The value of a basic value that is no name, no number and no combination, and
whether it may need escaping. -/
def evalTerm : Term → Run (Value × Bool)
  | .text s => pure (.string s, true)
  | .bool b => pure (.bool b, false)
  | .array items => do
      let vs ← evalItems items
      pure (.array vs, false)
  | .member negated item container => do
      let v ← unescaped (evalExpr item)
      let c ← unescaped (evalExpr container)
      let b ← orFail (isIn v c)
      pure (.bool (b != negated), false)
  | .concat parts => do
      let (s, escapable) ← concatFrom parts "" false
      pure (.string s, escapable)
  | .call name args => do
      let v ← applyFunction w name (evalArgs args)
      pure (v, true)
  | .macroCall space name args => do
      let s ← applyMacro w render space name (evalWanted args)
      pure (.string s, false)
  | .test subject negated name args => do
      let b ← applyTest w subject name (evalPlainArgs args)
      pure (.bool (b != negated), false)
  | .name _ | .int _ | .float _ | .math _ _ _ | .logic _ _ _ => fail ""

/-- Whether a basic value holds, if it is no name and no number.  Nothing holds, not
even its negation, if a number is compared with something else. -/
def truthOfTerm : Term → Run (Option Bool)
  | .logic .disj l r => do
      if ← truthOf l then pure (some true) else some <$> truthOf r
  | .logic .conj l r => do
      if ← truthOf l then some <$> truthOf r else pure (some false)
  | .logic .equal l r => do
      let v ← evalExpr l
      let u ← evalExpr r
      pure (LogicOp.equal.equate v u)
  | .logic .notEqual l r => do
      let v ← evalExpr l
      let u ← evalExpr r
      pure (LogicOp.notEqual.equate v u)
  | .logic op l r => do
      let x ← numberOf l
      let y ← numberOf r
      match x, y with
      | some x, some y => pure (some (op.compare x.toDouble y.toDouble))
      | _, _ => fail "Comparison to NaN"
  | .member negated item container => do
      let v ← unescaped (evalExpr item)
      let c ← unescaped (evalExpr container)
      let b ← orFail (isIn v c)
      pure (some (b != negated))
  | .test subject negated name args => do
      let b ← applyTest w subject name (evalPlainArgs args)
      pure (some (b != negated))
  | .bool b => pure (some b)
  | .text s => pure (some (!s.isEmpty))
  | .array items => pure (some (!items.isEmpty))
  | .call name args => do
      match ← applyFunction w name (evalArgs args) with
      | .bool b => pure (some b)
      | _ =>
          fail ("Function " ++ backquoted name
            ++ " was used in a logic operation but is not returning a bool")
  | .macroCall space name args => do
      let s ← applyMacro w render space name (evalWanted args)
      pure (some (!s.isEmpty))
  | .name _ | .int _ | .float _ | .math _ _ _ | .concat _ => fail ""

/-- The number of a basic value; none stands for what is no number. -/
def numberOfTerm : Term → Run (Option Number)
  | .int n => pure (some (.int n))
  | .float x => pure (some (.float x))
  | .name path => do
      match ← lookUp w path with
      | .number n => pure (some n)
      | _ =>
          fail ("Variable " ++ backquoted path
            ++ " was used in a math operation but is not a number")
  | .math op l r => do
      let x ← numberOf l
      let y ← numberOf r
      match x, y with
      | some x, some y => orFail (op.apply l r x y)
      | _, _ => pure none
  | .call name args => do
      match ← applyFunction w name (evalArgs args) with
      | .number n => pure (some n)
      | _ =>
          fail ("Function " ++ backquoted name
            ++ " was used in a math operation but is not returning a number")
  | .text s => fail (mathFault "string" (backquoted s))
  | .bool b => fail (mathFault "boolean" (backquoted (boolName b)))
  | .concat parts =>
      fail (mathFault "string concatenation" (String.intercalate " ~ " (parts.map Term.shownPart)))
  | .test _ _ name _ => fail (mathFault "test" name)
  | .logic _ _ _ | .member _ _ _ | .macroCall _ _ _ | .array _ => fail ""

/-- The values of some expressions. -/
def evalItems : List Expr → Run (List Value)
  | [] => pure []
  | e :: es => do
      let v ← evalExpr e
      let vs ← evalItems es
      pure (v :: vs)

/-- The text of a part of a concatenation, and whether a function made it. -/
def concatPart : Term → Run (String × Bool)
  | .text s => pure (s, false)
  | .int n => pure (String.ofList (Binary64.integerText n), false)
  | .float x => pure (String.ofList x.plainText, false)
  | .name path => do
      match concatText? (← lookUp w path) with
      | some s => pure (s, false)
      | none =>
          fail ("Tried to concat a value that is not a string or a number from ident " ++ path)
  | .call name args => do
      match concatText? (← applyFunction w name (evalArgs args)) with
      | some s => pure (s, true)
      | none =>
          fail ("Tried to concat a value that is not a string or a number from function call "
            ++ name)
  | _ => fail ""

/-- The text of the parts of a concatenation, after the text so far. -/
def concatFrom : List Term → String → Bool → Run (String × Bool)
  | [], s, escapable => pure (s, escapable)
  | t :: ts, s, escapable => do
      let (part, fromCall) ← concatPart t
      concatFrom ts (s ++ part) (escapable || fromCall)

/-- The values of named arguments. -/
def evalArgs : List (String × Expr) → Run (List (String × Value))
  | [] => pure []
  | (key, e) :: rest => do
      let v ← unescaped (evalExpr e)
      let more ← evalArgs rest
      pure ((key, v) :: more)

/-- The values of those named arguments that are wanted. -/
def evalWanted : List (String × Expr) → List String → Run (List (String × Value))
  | [], _ => pure []
  | (key, e) :: rest, wanted => do
      if wanted.contains key then
        let v ← unescaped (evalExpr e)
        let more ← evalWanted rest wanted
        pure ((key, v) :: more)
      else evalWanted rest wanted

/-- The values of arguments without names. -/
def evalPlainArgs : List Expr → Run (List Value)
  | [] => pure []
  | e :: es => do
      let v ← unescaped (evalExpr e)
      let vs ← evalPlainArgs es
      pure (v :: vs)

/-- The value that stands in for what is not defined. -/
def defaultValue : List Filter → Run Value
  | .mk _ args :: _ => defaultArg args
  | [] => fail ""

/-- The argument that holds the value for what is not defined. -/
def defaultArg : List (String × Expr) → Run Value
  | [] => fail "The `default` filter requires a `value` argument."
  | (key, e) :: rest => if key == "value" then evalExpr e else defaultArg rest

/-- A value passed through filters. -/
def applyFilters : List Filter → Value → Bool → Run (Value × Bool)
  | [], v, escapable => pure (v, escapable)
  | .mk name args :: fs, v, escapable => do
      if name == "safe" || name == "default" then applyFilters fs v escapable
      else
        let f ← findFilter name
        let v ← explained ("Filter call '" ++ name ++ "' failed") (do
          let values ← evalArgs args
          orFail (f v (Keyed.ofPairs values)))
        applyFilters fs v true

end

end

end FormScaffold.Template
