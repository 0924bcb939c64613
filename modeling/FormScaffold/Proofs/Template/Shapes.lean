import FormScaffold.Proofs.Template.PlainText

/-!
# Shapes of values

A shape says what a value is as far as templates may rely on it: a text, a number, a list of
records with some members, or one of these that may be null.  A template fits a context of
shapes if every path that it prints or tests is there, filters and comparisons get values of the
kind they take, and nothing that it assigns hides another path.

`Node.adds?` decides this.  It gives the paths that are certain to be assigned when the node is
done, or nothing if the node does not fit.
-/

namespace FormScaffold.Template

open FormScaffold FormScaffold.Json

/-! ## Names -/

/-- A character of a plain name. -/
def isNameChar (c : Char) : Bool := c.isAlphanum || c == '_'

/-- A name that paths can be made of, without those that have a meaning of their own. -/
def isPlainName (s : String) : Bool :=
  s.toList.all isNameChar && s != "" && s != "loop" && s != everythingName

/-- A plain name. -/
structure PlainName where
  text : String
  plain : isPlainName text = true
  deriving DecidableEq

/-! ## Shapes -/

/-- What is known of a value. -/
inductive Shape where
  | text
  | flag
  | number
  | any
  | maybe (s : Shape)
  | list (item : Shape)
  | table (value : Shape)
  | record
  | having (key : PlainName) (value rest : Shape)
  deriving DecidableEq

namespace Shape

/-- A value has a shape. -/
def Holds : Shape → Value → Prop
  | text, v => ∃ s, v = .string s
  | flag, v => ∃ b, v = .bool b
  | number, v => ∃ n, v = .number n
  | any, _ => True
  | maybe s, v => v = .null ∨ s.Holds v
  | list item, v => ∃ vs, v = .array vs ∧ ∀ u ∈ vs, item.Holds u
  | table value, v => ∃ ms, v = .object ms ∧ ∀ m ∈ ms, value.Holds m.2
  | record, v => ∃ ms, v = .object ms
  | having key value rest, v => rest.Holds v ∧ ∃ u, v.member? key.text = some u ∧ value.Holds u

/-- A record with the given members. -/
def ofMembers : List (PlainName × Shape) → Shape
  | [] => record
  | (key, value) :: rest => having key value (ofMembers rest)

/-- The members that a shape tells of. -/
def members : Shape → List (PlainName × Shape)
  | having key value rest => (key, value) :: rest.members
  | _ => []

/-- The shape of a value that counts as true. -/
def present : Shape → Shape
  | maybe s => s
  | s => s

/-- The shape of an item of a container that a loop goes over, with or without keys. -/
def item? (hasKey : Bool) : Shape → Option Shape
  | list item => if hasKey then none else some item
  | table value => if hasKey then some value else none
  | _ => none

theorem Holds.present {s : Shape} {v : Value} (h : s.Holds v) (htrue : isTruthy v = true) :
    s.present.Holds v := by
  cases s with
  | maybe s =>
      obtain rfl | hs := h
      · cases htrue
      · exact hs
  | _ => exact h

theorem Holds.of_present {s : Shape} {v : Value} (h : s.present.Holds v) : s.Holds v := by
  cases s with
  | maybe s => exact Or.inr h
  | _ => exact h

theorem holds_ofMembers {members : List (PlainName × Shape)} {ms : List (String × Value)}
    (h : ∀ m ∈ members, ∃ u, Keyed.get? m.1.text ms = some u ∧ m.2.Holds u) :
    (ofMembers members).Holds (.object ms) := by
  induction members with
  | nil => exact ⟨ms, rfl⟩
  | cons m rest ih =>
      exact ⟨ih fun n hn => h n (List.mem_cons_of_mem m hn), h m List.mem_cons_self⟩

theorem Holds.member {s : Shape} {v : Value} (h : s.Holds v) {key : PlainName} {t : Shape}
    (hkey : (key, t) ∈ s.members) : ∃ u, v.member? key.text = some u ∧ t.Holds u := by
  induction s with
  | having k value rest _ ih =>
      obtain heq | hrest := List.mem_cons.mp hkey
      · cases heq
        exact h.2
      · exact ih h.1 hrest
  | _ => cases hkey

theorem Holds.items {s t : Shape} {v : Value} {hasKey : Bool} (h : s.Holds v)
    (hitem : s.item? hasKey = some t) (name : String) :
    loopItems name hasKey v = .ok (plainItems v) ∧ ∀ item ∈ plainItems v, t.Holds item.2 := by
  cases s with
  | list item =>
      obtain ⟨vs, rfl, hvs⟩ := h
      cases hasKey with
      | true => cases hitem
      | false =>
          cases hitem
          refine ⟨rfl, fun p hp => ?_⟩
          obtain ⟨u, hu, rfl⟩ := List.mem_map.mp hp
          exact hvs u hu
  | table value =>
      obtain ⟨ms, rfl, hms⟩ := h
      cases hasKey with
      | true =>
          cases hitem
          exact ⟨rfl, hms⟩
      | false => cases hitem
  | _ => cases hitem

end Shape

/-! ## Contexts -/

/-- The shapes of paths, and the names whose members are among the paths. -/
structure Context where
  heads : List String
  entries : List (String × Shape)

namespace Context

/-- The shape of a path. -/
def shape? (c : Context) (path : String) : Option Shape := c.entries.lookup path

/-- More paths, which hide others. -/
def adding (c : Context) (more : List (String × Shape)) : Context :=
  { c with entries := more ++ c.entries }

/-- The name hides no path. -/
def isFree (c : Context) (name : String) : Bool :=
  isPlainName name && !c.heads.contains name && (c.shape? name).isNone

/-- What a loop tells of its progress. -/
def progress : List (String × Shape) :=
  [("loop.index", .number), ("loop.index0", .number), ("loop.first", .flag), ("loop.last", .flag)]

/-- What a loop binds, for an item of a shape. -/
def bound (key : Option String) (value : String) (s : Shape) : List (String × Shape) :=
  progress ++ (value, s) :: s.members.map (fun m => (value ++ "." ++ m.1.text, m.2)) ++
    match key with
    | some k => [(k, .text)]
    | none => []

/-- The context of the body of a loop. -/
def round (c : Context) (key : Option String) (value : String) (s : Shape) : Context :=
  ⟨value :: c.heads, bound key value s ++ c.entries⟩

/-- The names of a loop are free. -/
def admits (c : Context) (key : Option String) (value : String) : Bool :=
  c.isFree value &&
    match key with
    | some k => c.isFree k && k != value
    | none => true

end Context

/-! ## What fits a context -/

/-- The shape of a value after a filter. -/
def Filter.shape? : Filter → Shape → Option Shape
  | .mk "json_encode" [], _ => some .text
  | .mk "length" [], .text => some .number
  | .mk "length" [], .list _ => some .number
  | .mk "length" [], .table _ => some .number
  | .mk "replace" [("from", .mk (.text _) false []), ("to", .mk (.text _) false [])], .text =>
      some .text
  | _, _ => none

/-- The shape of a value after filters. -/
def filteredShape? (fs : List Filter) (s : Shape) : Option Shape :=
  fs.foldlM (fun s f => f.shape? s) s

/-- A comparison of values of two shapes has a truth value. -/
def LogicOp.accepts (op : LogicOp) (s t : Shape) : Bool :=
  match op with
  | .conj | .disj | .equal | .notEqual => true
  | .greater | .greaterEq | .less | .lessEq => s == .number && t == .number

/-- The operation asks whether its parts hold. -/
def LogicOp.joinsTruths (op : LogicOp) : Bool :=
  match op with
  | .conj | .disj => true
  | _ => false

/-- The expression is not a number that is written out. -/
def Expr.isTestable : Expr → Bool
  | .mk (.int _) _ _ => false
  | _ => true

/-- The shape of an expression that fits a context. -/
def Expr.shape? (c : Context) : Expr → Option Shape
  | .mk (.name path) negated fs =>
      match (c.shape? path).bind (filteredShape? fs) with
      | some s => some (if negated then .flag else s)
      | none => none
  | .mk (.text _) false [] => some .text
  | .mk (.int _) false [] => some .number
  | .mk (.logic op l r) false [] =>
      match l.shape? c, r.shape? c with
      | some s, some t =>
          if op.accepts s t && (!op.joinsTruths || l.isTestable && r.isTestable) then some .flag
          else none
      | _, _ => none
  | _ => none

/-- The context of a body that is used if an expression holds. -/
def Context.supposing (c : Context) : Expr → Context
  | .mk (.name path) false [] =>
      match c.shape? path with
      | some s => c.adding [(path, s.present)]
      | none => c
  | _ => c

/-- Paths that both of two lists have with one shape. -/
def sharedEntries (xs ys : List (String × Shape)) : List (String × Shape) :=
  xs.filter fun e => xs.lookup e.1 == some e.2 && ys.lookup e.1 == some e.2

mutual

/-- The paths that a node assigns, if it fits a context. -/
def Node.adds? (c : Context) : Node → Option (List (String × Shape))
  | .text _ => some []
  | .print e => (e.shape? c).map fun _ => []
  | .assign key false e =>
      match e.shape? c with
      | some s => if c.isFree key then some [(key, s)] else none
      | none => none
  | .branch cases otherwise =>
      match casesAdd? c cases, optionalAdds? c otherwise with
      | some none, some xs => some xs
      | some (some xs), some ys => some (sharedEntries xs ys)
      | _, _ => none
  | .loop key value (.mk (.name path) false []) body none =>
      match (c.shape? path).bind (Shape.item? key.isSome) with
      | some s =>
          if c.admits key value then (nodesAdd? (c.round key value s) body).map fun _ => []
          else none
      | none => none
  | _ => none

/-- The paths that nodes assign, if they fit a context. -/
def nodesAdd? (c : Context) : List Node → Option (List (String × Shape))
  | [] => some []
  | n :: ns =>
      match n.adds? c with
      | some xs => (nodesAdd? (c.adding xs) ns).map fun ys => ys ++ xs
      | none => none

/-- The paths that all cases assign, if they fit a context; nothing is said of no cases. -/
def casesAdd? (c : Context) : List (Expr × List Node) → Option (Option (List (String × Shape)))
  | [] => some none
  | (e, body) :: rest =>
      if e.isTestable && (e.shape? c).isSome then
        match nodesAdd? (c.supposing e) body, casesAdd? c rest with
        | some xs, some none => some (some xs)
        | some xs, some (some ys) => some (some (sharedEntries xs ys))
        | _, _ => none
      else none

/-- The paths that a body assigns that may be missing. -/
def optionalAdds? (c : Context) : Option (List Node) → Option (List (String × Shape))
  | none => some []
  | some body => nodesAdd? c body

end

/-- Nodes fit a context. -/
def Context.fits (c : Context) (ns : List Node) : Bool := (nodesAdd? c ns).isSome

end FormScaffold.Template
