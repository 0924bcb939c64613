import FormScaffold.Template.Rendering

/-!
# The text of plain templates

A plain template prints values, assigns names, branches and goes over lists and tables.  Its
text can be given without frames, failures and escaping, from the values that its paths stand
for: `plainNodes` is that text, and `afterNodes` are the values that paths stand for when it is
done.  Paths are not taken apart; a loop binds the paths to the members of its item one by one.

What is no part of a plain template counts as nothing here.
-/

namespace FormScaffold.Template

open FormScaffold FormScaffold.Json

/-- Values by the paths that stand for them, the innermost first. -/
abbrev Bindings := List (String × Value)

/-- The value that a path stands for. -/
def Bindings.get (b : Bindings) (path : String) : Value := (b.lookup path).getD .null

/-! ## Expressions -/

/-- A value after a filter whose arguments are literals. -/
def Filter.plain : Filter → Value → Value
  | .mk name args, v =>
      match Filters.all.lookup name with
      | some f =>
          match f v (Keyed.ofPairs (args.map fun a => (a.1, a.2.literalValue))) with
          | .ok u => u
          | .error _ => .null
      | none => .null

/-- A value after filters. -/
def plainFiltered (fs : List Filter) (v : Value) : Value := fs.foldl (fun v f => f.plain v) v

/-- Whether two values compare. -/
def LogicOp.plain (op : LogicOp) (v u : Value) : Bool :=
  match op with
  | .conj => isTruthy v && isTruthy u
  | .disj => isTruthy v || isTruthy u
  | .equal | .notEqual => (op.equate v u).getD false
  | .greater | .greaterEq | .less | .lessEq =>
      match v, u with
      | .number x, .number y => op.compare x.toDouble y.toDouble
      | _, _ => false

mutual

/-- The value of an expression. -/
def Expr.plain (b : Bindings) : Expr → Value
  | .mk t negated fs =>
      let v := plainFiltered fs (t.plain b)
      if negated then .bool (!isTruthy v) else v

/-- The value of a basic value. -/
def Term.plain (b : Bindings) : Term → Value
  | .text s => .string s
  | .int n => .ofInt n
  | .name path => b.get path
  | .logic op l r => .bool (op.plain (l.plain b) (r.plain b))
  | _ => .null

end

/-- An expression holds. -/
def Expr.holds (b : Bindings) (e : Expr) : Bool := isTruthy (e.plain b)

/-! ## Loops -/

/-- What a loop goes over. -/
def plainItems : Value → List (String × Value)
  | .array items => items.map fun v => ("", v)
  | .object members => members
  | _ => []

/-- The paths to the members of a value. -/
def memberBindings (name : String) : Value → Bindings
  | .object members => members.map fun m => (name ++ "." ++ m.1, m.2)
  | _ => []

/-- What a loop tells of its progress in a round. -/
def progressBindings (round : Nat) (isLast : Bool) : Bindings :=
  [("loop.index", .ofNat (round + 1)), ("loop.index0", .ofNat round),
   ("loop.first", .bool (round == 0)), ("loop.last", .bool isLast)]

/-- What a loop binds in a round. -/
def roundBindings (key : Option String) (value : String) (round : Nat) (isLast : Bool)
    (item : String × Value) : Bindings :=
  progressBindings round isLast ++ (value, item.2) :: memberBindings value item.2 ++
    match key with
    | some k => [(k, .string item.1)]
    | none => []

/-- The texts of the rounds of a loop, from one of them on. -/
def plainRounds (one : Bindings → String) (key : Option String) (value : String) (b : Bindings) :
    Nat → List (String × Value) → String
  | _, [] => ""
  | round, item :: rest =>
      one (roundBindings key value round rest.isEmpty item ++ b) ++
        plainRounds one key value b (round + 1) rest

/-! ## Nodes -/

mutual

/-- What paths stand for after a node. -/
def Node.after : Node → Bindings → Bindings
  | .assign key _ e, b => (key, e.plain b) :: b
  | .branch cases otherwise, b => (afterCases cases b).getD (afterOptional otherwise b)
  | _, b => b

/-- What paths stand for after nodes. -/
def afterNodes : List Node → Bindings → Bindings
  | [], b => b
  | n :: ns, b => afterNodes ns (n.after b)

/-- What paths stand for after the first case that holds. -/
def afterCases : List (Expr × List Node) → Bindings → Option Bindings
  | [], _ => none
  | (e, body) :: rest, b => if e.holds b then some (afterNodes body b) else afterCases rest b

/-- What paths stand for after a body that may be missing. -/
def afterOptional : Option (List Node) → Bindings → Bindings
  | none, b => b
  | some body, b => afterNodes body b

end

mutual

/-- The text of a node. -/
def Node.plain : Node → Bindings → String
  | .text s, _ => s
  | .print e, b => valueText (e.plain b)
  | .branch cases otherwise, b => (plainCases cases b).getD (plainOptional otherwise b)
  | .loop key value container body _, b =>
      plainRounds (plainNodes body) key value b 0 (plainItems (container.plain b))
  | _, _ => ""

/-- The text of nodes. -/
def plainNodes : List Node → Bindings → String
  | [], _ => ""
  | n :: ns, b => n.plain b ++ plainNodes ns (n.after b)

/-- The text of the first case that holds. -/
def plainCases : List (Expr × List Node) → Bindings → Option String
  | [], _ => none
  | (e, body) :: rest, b => if e.holds b then some (plainNodes body b) else plainCases rest b

/-- The text of a body that may be missing. -/
def plainOptional : Option (List Node) → Bindings → String
  | none, _ => ""
  | some body, b => plainNodes body b

end

/-! ## Single nodes

The lemmas that take a text apart into the texts of its nodes are in the simp set, so what is left
of a rendering is what its values are. -/

@[simp]
theorem valueText_string (s : String) : valueText (.string s) = s := by rw [valueText]

@[simp]
theorem isTruthy_bool (truth : Bool) : isTruthy (.bool truth) = truth := rfl

section

-- The equations of the texts are made here, once for all lemmas that unfold one of them.
attribute [local simp] Node.plain plainNodes Node.after afterNodes

variable (b : Bindings)

@[simp]
theorem plainNodes_nil : plainNodes [] b = "" := by rw [plainNodes]

@[simp]
theorem plainNodes_cons (n : Node) (ns : List Node) :
    plainNodes (n :: ns) b = n.plain b ++ plainNodes ns (n.after b) := by
  rw [plainNodes]

@[simp]
theorem afterNodes_nil : afterNodes [] b = b := by rw [afterNodes]

@[simp]
theorem afterNodes_cons (n : Node) (ns : List Node) :
    afterNodes (n :: ns) b = afterNodes ns (n.after b) := by rw [afterNodes]

theorem plainNodes_append (ns ms : List Node) :
    plainNodes (ns ++ ms) b = plainNodes ns b ++ plainNodes ms (afterNodes ns b) := by
  induction ns generalizing b with
  | nil => rw [plainNodes_nil, afterNodes_nil, List.nil_append, String.empty_append]
  | cons n rest ih =>
      rw [List.cons_append, plainNodes_cons, plainNodes_cons, afterNodes_cons, ih,
        String.append_assoc]

@[simp]
theorem Node.plain_text (s : String) : (Node.text s).plain b = s := by rw [Node.plain]

@[simp]
theorem Node.after_text (s : String) : (Node.text s).after b = b := by rw [Node.after] <;> nofun

theorem Node.plain_print (e : Expr) : (Node.print e).plain b = valueText (e.plain b) := by
  rw [Node.plain]

@[simp]
theorem Node.after_print (e : Expr) : (Node.print e).after b = b := by
  rw [Node.after] <;> nofun

@[simp]
theorem Node.plain_assign (key : String) (isGlobal : Bool) (e : Expr) :
    (Node.assign key isGlobal e).plain b = "" := by
  rw [Node.plain] <;> nofun

@[simp]
theorem Node.after_assign (key : String) (isGlobal : Bool) (e : Expr) :
    (Node.assign key isGlobal e).after b = (key, e.plain b) :: b := by
  rw [Node.after]

@[simp]
theorem Node.after_loop (key : Option String) (value : String) (container : Expr)
    (body : List Node) (otherwise : Option (List Node)) :
    (Node.loop key value container body otherwise).after b = b := by
  rw [Node.after] <;> nofun

theorem Node.plain_branch (e : Expr) (body : List Node) (otherwise : Option (List Node)) :
    (Node.branch [(e, body)] otherwise).plain b =
      if e.holds b then plainNodes body b else plainOptional otherwise b := by
  rw [Node.plain, plainCases, plainCases]
  split <;> rfl

@[simp]
theorem plainOptional_none : plainOptional none b = "" := by rw [plainOptional]

@[simp]
theorem plainOptional_some (body : List Node) :
    plainOptional (some body) b = plainNodes body b := by rw [plainOptional]

@[simp]
theorem afterOptional_none : afterOptional none b = b := by rw [afterOptional]

@[simp]
theorem afterOptional_some (body : List Node) :
    afterOptional (some body) b = afterNodes body b := by rw [afterOptional]

theorem Node.after_branch (e : Expr) (body : List Node) (otherwise : Option (List Node)) :
    (Node.branch [(e, body)] otherwise).after b =
      if e.holds b then afterNodes body b else afterOptional otherwise b := by
  rw [Node.after, afterCases, afterCases]
  split <;> rfl

variable {b} {cases : List (Expr × List Node)} {otherwise : Option (List Node)}

/-- A branch with one text in all of its bodies has this text. -/
theorem Node.plain_branch_of_bodies {text : String} (hcases : ∀ c ∈ cases, plainNodes c.2 b = text)
    (hotherwise : plainOptional otherwise b = text) :
    (Node.branch cases otherwise).plain b = text := by
  rw [Node.plain]
  induction cases with
  | nil => exact hotherwise
  | cons first rest ih =>
      obtain ⟨e, body⟩ := first
      obtain ⟨hfirst, hrest⟩ := List.forall_mem_cons.mp hcases
      rw [plainCases]
      split
      · exact hfirst
      · exact ih hrest

/-- A branch assigns nothing if none of its bodies does. -/
theorem Node.after_branch_of_bodies (hcases : ∀ c ∈ cases, afterNodes c.2 b = b)
    (hotherwise : afterOptional otherwise b = b) : (Node.branch cases otherwise).after b = b := by
  rw [Node.after]
  induction cases with
  | nil => exact hotherwise
  | cons first rest ih =>
      obtain ⟨e, body⟩ := first
      obtain ⟨hfirst, hrest⟩ := List.forall_mem_cons.mp hcases
      rw [afterCases]
      split
      · exact hfirst
      · exact ih hrest

end

end FormScaffold.Template
