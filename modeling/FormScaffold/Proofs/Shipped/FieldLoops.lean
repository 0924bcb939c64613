import FormScaffold.Proofs.Model.Values
import FormScaffold.Proofs.Template.ContextSteps

/-!
# Loops over the fields of a model

What the shipped templates see of a field in the round of a loop over the fields, and the text of
such a loop: that of each field in turn, which may depend on whether the field is the last one.
-/

namespace FormScaffold

open Json Template

namespace FieldModel

/-- What a loop over the fields binds in a round. -/
def bound (f : FieldModel) (round : Nat) (isLast : Bool) : Bindings :=
  roundBindings none "f" round isLast ("", f.toJson.normalized)

/-- The members of a field, as its data has them. -/
def members (f : FieldModel) : List (String × Value) :=
  match f.toJson with
  | .object ms => ms
  | _ => []

variable (f : FieldModel) (n : Nat) (isLast : Bool) (b : Bindings)

theorem get_member (key : String) {v : Value} (h : f.members.lookup key = some v) :
    Bindings.get (f.bound n isLast ++ b) ("f" ++ "." ++ key) = v.normalized := by
  have hkeys : (f.members.map Prod.fst).Nodup := by
    simp [members, toJson, TypeMapping.members]
  have hobject : f.toJson = .object f.members := rfl
  have hmember : f.toJson.normalized.member? key = some v.normalized := by
    rw [hobject]
    simp only [Value.normalized, Value.member?]
    exact Value.get?_normalizedMembers hkeys h
  exact Context.get_round_member (by decide) hmember

/-- Paths stand for a field in the last round of a loop, or in one before it. -/
structure Seen (f : FieldModel) (isLast : Bool) (b : Bindings) : Prop where
  typeTag : b.get "f.field_type" = .string f.typeTag
  required : b.get "f.required" = .bool f.required
  label : b.get "f.label" = .string f.label
  maxLength : b.get "f.max_length" = .ofOption .ofNat f.maxLength
  minLength : b.get "f.min_length" = .ofOption .ofNat f.minLength
  pattern : b.get "f.pattern" = .ofOption .string f.pattern
  choices : b.get "f.options" = .array (f.choices.map fun c => c.toJson.normalized)
  pascalName : b.get "f.pascal_name" = .string f.pascalName
  camelName : b.get "f.camel_name" = .string f.camelName
  objectType : b.get "f.object_type" = .string f.types.objectType
  columnType : b.get "f.column_type" = .string f.types.columnType
  frontendType : b.get "f.frontend_type" = .string f.types.frontendType
  last : b.get "loop.last" = .bool isLast

theorem seen_bound : f.Seen isLast (f.bound n isLast ++ b) := by
  constructor
  case typeTag => exact f.get_member n isLast b "field_type" rfl
  case required => exact f.get_member n isLast b "required" rfl
  case label => exact f.get_member n isLast b "label" rfl
  case maxLength =>
    exact (f.get_member n isLast b "max_length" rfl).trans (Value.normalized_optionalNumber _)
  case minLength =>
    exact (f.get_member n isLast b "min_length" rfl).trans (Value.normalized_optionalNumber _)
  case pattern =>
    exact (f.get_member n isLast b "pattern" rfl).trans (Value.normalized_optionalText _)
  case choices =>
    refine (f.get_member n isLast b "options" rfl).trans ?_
    simp [Value.normalized, Value.normalizedItems_eq_map]
  case pascalName => exact f.get_member n isLast b "pascal_name" rfl
  case camelName => exact f.get_member n isLast b "camel_name" rfl
  case objectType => exact f.get_member n isLast b "object_type" rfl
  case columnType => exact f.get_member n isLast b "column_type" rfl
  case frontendType => exact f.get_member n isLast b "frontend_type" rfl
  case last => exact Context.get_round_progress (by simp [Context.progress])

/-- Other names are those of the model. -/
theorem get_outside {name : String} (h : isPlainName name = true) (hne : name ≠ "f") :
    (f.bound n isLast ++ b).get name = b.get name := by
  have hname := congrArg Prod.snd (splitHead_name h)
  exact (Context.get_round_key (Context.not_mem_progress (Or.inl hname)) hne
    (Context.not_mem_memberBindings (by decide) (Or.inl hname) _)).trans (if_neg nofun)

end FieldModel

namespace Model

/-- Paths stand for a model. -/
structure Seen (m : Model) (b : Bindings) : Prop where
  entityName : b.get "entity_name" = .string m.entityName
  entityNameCamel : b.get "entity_name_camel" = .string m.entityNameCamel
  tableName : b.get "table_name" = .string m.tableName
  projectName : b.get "project_name" = .string m.projectName
  projectNamespace : b.get "namespace" = .string m.projectNamespace
  database : b.get "database" = .string m.database.tag
  generatedAt : b.get "generated_at" = .string m.generatedAt
  author : b.get "author" = .ofOption .string m.author
  description : b.get "description" = .ofOption .string m.description
  imports : b.get "additional_imports" =
    .object (Keyed.mapValues .string (Keyed.ofPairs m.additionalImports))
  settings : b.get "custom_settings" =
    .object (Keyed.mapValues .string (Keyed.ofPairs m.customSettings))
  fields : b.get "fields" = .array (m.fields.map fun f => f.toJson.normalized)

theorem seen_given (m : Model) (now : Calendar.Instant) : m.Seen (m.given now) := by
  have hget : ∀ {key : String} {v : Value}, m.members.lookup key = some v →
      Bindings.get (m.given now) key = v.normalized := by
    intro key v h
    have hgiven := get?_given h now
    rw [Keyed.get?_eq_lookup] at hgiven
    simp [Bindings.get, hgiven]
  constructor
  case entityName => exact hget (v := .string _) rfl
  case entityNameCamel => exact hget (v := .string _) rfl
  case tableName => exact hget (v := .string _) rfl
  case projectName => exact hget (v := .string _) rfl
  case projectNamespace => exact hget (v := .string _) rfl
  case database => exact hget (v := .string _) rfl
  case generatedAt => exact hget (v := .string _) rfl
  case author => exact (hget (v := .ofOption .string _) rfl).trans (Value.normalized_optionalText _)
  case description =>
    exact (hget (v := .ofOption .string _) rfl).trans (Value.normalized_optionalText _)
  case imports =>
    rw [hget (v := .ofStringMap m.additionalImports) rfl, Value.normalized_ofStringMap]
  case settings =>
    rw [hget (v := .ofStringMap m.customSettings) rfl, Value.normalized_ofStringMap]
  case fields =>
    rw [hget (v := .array (m.fields.map FieldModel.toJson)) rfl]
    simp [Value.normalized, Value.normalizedItems_eq_map]

/-- In a round of a loop over the fields, the paths still stand for the model. -/
theorem Seen.bound {m : Model} {b : Bindings} (h : m.Seen b) (f : FieldModel) (n : Nat)
    (isLast : Bool) : m.Seen (f.bound n isLast ++ b) := by
  have hsame : ∀ {name : String} {v : Value}, isPlainName name = true ∧ name ≠ "f" →
      b.get name = v → (f.bound n isLast ++ b).get name = v :=
    fun hname hv => (f.get_outside n isLast b hname.1 hname.2).trans hv
  exact ⟨hsame (by decide) h.entityName, hsame (by decide) h.entityNameCamel,
    hsame (by decide) h.tableName, hsame (by decide) h.projectName,
    hsame (by decide) h.projectNamespace, hsame (by decide) h.database,
    hsame (by decide) h.generatedAt, hsame (by decide) h.author, hsame (by decide) h.description,
    hsame (by decide) h.imports, hsame (by decide) h.settings, hsame (by decide) h.fields⟩

end Model

/-! ## Parts of nodes -/

namespace Shipped

/-- The value of a path. -/
abbrev valueOf (path : String) : Expr := .mk (.name path) false []

/-- The value of a path does not count as true. -/
abbrev lacking (path : String) : Expr := .mk (.name path) true []

/-- A printed path. -/
abbrev put (path : String) : Node := .print (valueOf path)

/-- A part that is there if an expression holds. -/
abbrev provided (e : Expr) (body : List Node) : Node := .branch [(e, body)] none

/-- A loop over the fields. -/
abbrev eachField (body : List Node) : Node := .loop none "f" (valueOf "fields") body none

variable (b : Bindings) (path : String)

@[simp]
theorem plain_valueOf : (valueOf path).plain b = b.get path := rfl

@[simp]
theorem holds_valueOf : (valueOf path).holds b = isTruthy (b.get path) := rfl

@[simp]
theorem holds_lacking : (lacking path).holds b = !isTruthy (b.get path) := rfl

@[simp]
theorem plain_put : (put path).plain b = valueText (b.get path) := Node.plain_print b _

@[simp]
theorem after_put : (put path).after b = b := Node.after_print b _

@[simp]
theorem plain_provided (e : Expr) (body : List Node) :
    (provided e body).plain b = if e.holds b then plainNodes body b else "" :=
  Node.plain_branch b e body none

@[simp]
theorem after_provided (e : Expr) (body : List Node) :
    (provided e body).after b = if e.holds b then afterNodes body b else b :=
  Node.after_branch b e body none

@[simp]
theorem after_eachField (body : List Node) : (eachField body).after b = b :=
  Node.after_loop b _ _ _ _ _

end Shipped

/-! ## Texts of loops -/

/-- The texts of items in turn, each of which may depend on whether the item is the last one. -/
def eachText {α : Type} (text : α → Bool → String) : List α → String
  | [] => ""
  | x :: rest => text x rest.isEmpty ++ eachText text rest

theorem eachText_join {α : Type} (text : α → String) (xs : List α) :
    eachText (fun x _ => text x) xs = String.join (xs.map text) := by
  induction xs with
  | nil => rfl
  | cons x rest ih => rw [eachText, ih, List.map_cons, String.join_cons]

theorem join_filter {α : Type} (p : α → Bool) (text : α → String) (xs : List α) :
    String.join (xs.map fun x => if p x then text x else "") =
      String.join ((xs.filter p).map text) := by
  induction xs with
  | nil => rfl
  | cons x rest ih =>
      rw [List.map_cons, String.join_cons, ih, List.filter_cons]
      split
      · rw [List.map_cons, String.join_cons]
      · rw [String.empty_append]

theorem join_filterMap {α β : Type} (make? : α → Option β) (text : β → String) (xs : List α) :
    String.join (xs.map fun x => ((make? x).map text).getD "") =
      String.join ((xs.filterMap make?).map text) := by
  induction xs with
  | nil => rfl
  | cons x rest ih =>
      rw [List.map_cons, String.join_cons, ih]
      cases hmade : make? x with
      | none =>
          rw [List.filterMap_cons_none hmade]
          exact String.empty_append
      | some y =>
          rw [List.filterMap_cons_some hmade, List.map_cons, String.join_cons]
          rfl

/-- What is put after all items but the last stands between them. -/
theorem eachText_intercalate {α : Type} (separator : String) (text : α → String) (xs : List α) :
    eachText (fun x isLast => text x ++ if isLast then "" else separator) xs =
      String.intercalate separator (xs.map text) := by
  induction xs with
  | nil => rfl
  | cons x rest ih =>
      cases rest with
      | nil => simp [eachText]
      | cons y more =>
          rw [eachText, ih]
          simp [String.intercalate_cons_cons, String.append_assoc]

theorem eachText_map {α β : Type} (text : β → Bool → String) (f : α → β) (xs : List α) :
    eachText text (xs.map f) = eachText (fun x isLast => text (f x) isLast) xs := by
  induction xs with
  | nil => rfl
  | cons x rest ih => rw [List.map_cons, eachText, eachText, ih, List.isEmpty_map]

/-- What stands before one of the items is put after all items before it. -/
theorem intercalate_append_cons (separator : String) (xs : List String) (y : String)
    (ys : List String) :
    String.intercalate separator (xs ++ y :: ys) =
      String.join (xs.map (· ++ separator)) ++ String.intercalate separator (y :: ys) := by
  induction xs with
  | nil => rw [List.nil_append, List.map_nil, String.join_nil, String.empty_append]
  | cons x rest ih =>
      have hrest : ∃ z zs, rest ++ y :: ys = z :: zs := by cases rest <;> simp
      obtain ⟨z, zs, hzs⟩ := hrest
      rw [List.cons_append, hzs, String.intercalate_cons_cons, ← hzs, ih, List.map_cons,
        String.join_cons]
      simp only [String.append_assoc]

theorem plainRounds_fields {b : Bindings} {one : Bindings → String}
    {text : FieldModel → Bool → String} (fields : List FieldModel)
    (hone : ∀ f n isLast, one (FieldModel.bound f n isLast ++ b) = text f isLast) (n : Nat) :
    plainRounds one none "f" b n (fields.map fun f => ("", f.toJson.normalized)) =
      eachText text fields := by
  induction fields generalizing n with
  | nil => rfl
  | cons f rest ih =>
      rw [List.map_cons, plainRounds, eachText, ih, ← hone f n]
      simp [FieldModel.bound]

namespace Shipped

/-- The text of a loop over the fields of a model. -/
theorem plain_eachField {m : Model} {b : Bindings} (h : m.Seen b) {body : List Node}
    (text : FieldModel → Bool → String)
    (hbody : ∀ {f : FieldModel} {isLast : Bool} {inner : Bindings}, f.Seen isLast inner →
      m.Seen inner → plainNodes body inner = text f isLast) :
    (eachField body).plain b = eachText text m.fields := by
  have hitems : plainItems (.array (m.fields.map fun f => f.toJson.normalized)) =
      m.fields.map fun f => ("", f.toJson.normalized) := by
    simp [plainItems, Function.comp_def]
  rw [eachField, Node.plain, plain_valueOf, h.fields, hitems]
  exact plainRounds_fields m.fields
    (fun f n isLast => hbody (f.seen_bound n isLast b) (h.bound f n isLast)) 0

end Shipped

end FormScaffold

/-!
## Counts in conditions

A template asks whether a list or a table has entries by comparing its length with zero.  Numbers
are compared as doubles, and the double of a count is zero only for the count zero.
-/

namespace FormScaffold

open Decimal Json Template

/-! ### The double of a count -/

namespace Decimal

theorem div_le_roundDiv (num den : Nat) : num / den ≤ roundDiv num den := by
  unfold roundDiv
  dsimp only
  repeat' split
  all_goals omega

namespace Binary64

theorem pow_two_pos (n : Nat) : 0 < Nat.pow 2 n := Nat.pow_pos (by decide)

theorem nearestCode_zero : nearestCode 0 1 = 0 := by
  unfold nearestCode scaledLog2
  generalize Nat.pow 2 1074 = units
  simp [roundDiv]

theorem code_pos {num : Nat} (h : 0 < num) :
    0 < (Nat.log2 num - 52) * binade + roundDiv num (Nat.pow 2 (Nat.log2 num - 52)) := by
  have hshift : Nat.pow 2 (Nat.log2 num - 52) ≤ num :=
    Nat.le_trans (Nat.pow_le_pow_right (by decide) (Nat.sub_le _ _))
      (Nat.log2_self_le (Nat.ne_of_gt h))
  have hquotient := Nat.div_pos hshift (pow_two_pos _)
  have hround := div_le_roundDiv num (Nat.pow 2 (Nat.log2 num - 52))
  omega

/-- A count of one or more has no code zero. -/
theorem nearestCode_pos {n : Nat} (h : 0 < n) : 0 < nearestCode n 1 := by
  unfold nearestCode scaledLog2
  simp only [Nat.div_one, Nat.one_mul]
  exact code_pos (Nat.mul_pos h (pow_two_pos 1074))

theorem significand_pos {code : Nat} (h : 0 < code) : 0 < significand code := by
  have hbinade : 0 < binade := by decide
  unfold significand
  split <;> omega

theorem scaled_ofNat (n : Nat) :
    (ofInt n).scaled =
      ((significand (nearestCode n 1) * Nat.pow 2 (unitShift (nearestCode n 1)) : Nat) : Int) := by
  have hsign : decide ((n : Int) < 0) = false := decide_eq_false (by omega)
  unfold ofInt scaled
  rw [hsign]
  rfl

/-- The double of a count is greater than zero if the count is. -/
theorem zero_lt_ofNat (n : Nat) : (ofInt 0).lt (ofInt n) = (n != 0) := by
  have hzero : (ofInt 0).scaled = 0 := by
    refine (scaled_ofNat 0).trans ?_
    rw [nearestCode_zero, show significand 0 = 0 by decide, Nat.zero_mul]
    rfl
  unfold lt
  rw [hzero]
  cases n with
  | zero =>
      rw [show ((0 : Nat) : Int) = 0 from rfl, hzero]
      rfl
  | succ n =>
      have hpos := Nat.mul_pos (significand_pos (nearestCode_pos n.succ_pos))
        (pow_two_pos (unitShift (nearestCode (n + 1) 1)))
      rw [scaled_ofNat]
      exact decide_eq_true (Int.natCast_pos.mpr hpos)

end Binary64

end Decimal

/-! ### The condition -/

namespace Shipped

/-- A path stands for a list or a table that has entries. -/
abbrev someOf (path : String) : Expr :=
  .mk (.logic .greater (.mk (.name path) false [.mk "length" []]) (.mk (.int 0) false [])) false []

variable {b : Bindings} {path : String}

theorem holds_someOf_array {items : List Value} (h : b.get path = .array items) :
    (someOf path).holds b = !items.isEmpty := by
  change LogicOp.plain .greater ((Template.Filter.mk "length" []).plain (b.get path)) (.ofInt 0) = _
  rw [h]
  refine (Binary64.zero_lt_ofNat items.length).trans ?_
  cases items <;> rfl

theorem holds_someOf_object {members : List (String × Value)} (h : b.get path = .object members) :
    (someOf path).holds b = !members.isEmpty := by
  change LogicOp.plain .greater ((Template.Filter.mk "length" []).plain (b.get path)) (.ofInt 0) = _
  rw [h]
  refine (Binary64.zero_lt_ofNat members.length).trans ?_
  cases members <;> rfl

end Shipped

end FormScaffold
