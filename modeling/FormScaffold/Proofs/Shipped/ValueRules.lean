import FormScaffold.Proofs.Shipped.RuleNodes

/-!
# Rules for values

The class of the entity, its validator and the schema of the form, as the rules that each of them
has for the fields.  Each template's text is the written form of such a class or schema, whose
parts are those of the model's fields.
-/

namespace FormScaffold

open Template Json Shipped

/-! ## Values that may be missing -/

/-- A number other than zero. -/
def positive (o : Option Nat) : Option Nat := o.filter fun n => n != 0

/-- A text with characters. -/
def nonEmpty (o : Option String) : Option String := o.filter fun s => !s.isEmpty

/-- A text that may be missing, with what stands about it if it is there. -/
def wrapped (before : String) (o : Option String) (after : String) : String :=
  match o with
  | some s => before ++ s ++ after
  | none => ""

theorem isTruthy_optionalNumber (o : Option Nat) :
    isTruthy (.ofOption .ofNat o) = (positive o).isSome := by
  cases o with
  | none => rfl
  | some n => cases n <;> rfl

theorem isTruthy_optionalText (o : Option String) :
    isTruthy (.ofOption .string o) = (nonEmpty o).isSome := by
  cases o with
  | none => rfl
  | some s =>
      change (!s.isEmpty) = (Option.filter (fun s => !s.isEmpty) (some s)).isSome
      rw [Option.filter_some]
      cases s.isEmpty <;> rfl

namespace Shipped

variable {b : Bindings} {path s : String} {o : Option String}

theorem plain_both (l r : Expr) : (both l r).plain b = .bool (l.holds b && r.holds b) := rfl

theorem plain_either (l r : Expr) : (either l r).plain b = .bool (l.holds b || r.holds b) := rfl

@[simp]
theorem holds_both (l r : Expr) : (both l r).holds b = (l.holds b && r.holds b) := rfl

@[simp]
theorem holds_either (l r : Expr) : (either l r).holds b = (l.holds b || r.holds b) := rfl

theorem holds_equals {t : String} (h : b.get path = .string t) :
    (equals path s).holds b = (t == s) := by
  change LogicOp.plain .equal (b.get path) (.string s) = _
  rw [h]
  rfl

theorem holds_differs {t : String} (h : b.get path = .string t) :
    (differs path s).holds b = (t != s) := by
  change LogicOp.plain .notEqual (b.get path) (.string s) = _
  rw [h]
  rfl

/-- A part with a value that is there as often as the part is. -/
theorem plain_wrapped {e : Expr} {before after : String} {value : Expr} (he : e.holds b = o.isSome)
    (hvalue : ∀ s, o = some s → valueText (value.plain b) = s) :
    (provided e [.text before, .print value, .text after]).plain b = wrapped before o after := by
  rw [plain_provided, he]
  cases o with
  | none => rfl
  | some s =>
      simp [Node.plain_print, hvalue s rfl, wrapped, String.append_assoc]

theorem plain_filtered (filter : Filter) :
    (Expr.mk (.name path) false [filter]).plain b = filter.plain (b.get path) := rfl

theorem plain_encoded (t : String) :
    (Template.Filter.mk "json_encode" []).plain (.string t) = .string (Value.string t).text := rfl

theorem plain_replaced (s u t : String) :
    (Template.Filter.mk "replace" [("from", literal s), ("to", literal u)]).plain (.string t) =
      .string (Text.replaced s u t) := by
  have hargs : Keyed.ofPairs [("from", Value.string s), ("to", .string u)] =
      [("from", .string s), ("to", .string u)] :=
    Keyed.ofPairs_of_ordered (List.pairwise_pair.mpr (show "from" < "to" by decide))
  have hreplace : Filters.all.lookup "replace" = some Filters.replace := rfl
  have hliteral : ∀ x : String, (literal x).literalValue = .string x := fun _ => rfl
  simp only [Filter.plain, hreplace, List.map_cons, List.map_nil, hliteral, hargs]
  rfl

theorem get_assigned {v : Value} {key : String} (h : path ≠ key) :
    Bindings.get ((key, v) :: b) path = b.get path := by
  unfold Bindings.get
  rw [List.lookup_cons, beq_false_of_ne h]

theorem get_assigned_self {v : Value} {key : String} : Bindings.get ((key, v) :: b) key = v := by
  unfold Bindings.get
  rw [List.lookup_cons, beq_self_eq_true]
  rfl

end Shipped

/-- What a round assigns to a name of its own hides nothing of the field. -/
theorem FieldModel.Seen.assigned {f : FieldModel} {isLast : Bool} {b : Bindings}
    (h : f.Seen isLast b) (key : String) (v : Value) (hkey : isPlainName key = true) :
    f.Seen isLast ((key, v) :: b) := by
  have hsame : ∀ {path : String} {u : Value}, isPlainName path = false → b.get path = u →
      Bindings.get ((key, v) :: b) path = u := by
    intro path u hpath hu
    rw [Shipped.get_assigned (fun heq => by rw [heq, hkey] at hpath; cases hpath), hu]
  exact ⟨hsame (by decide) h.typeTag, hsame (by decide) h.required,
    hsame (by decide) h.label, hsame (by decide) h.maxLength,
    hsame (by decide) h.minLength, hsame (by decide) h.pattern, hsame (by decide) h.choices,
    hsame (by decide) h.pascalName, hsame (by decide) h.camelName,
    hsame (by decide) h.objectType, hsame (by decide) h.columnType,
    hsame (by decide) h.frontendType, hsame (by decide) h.last⟩

/-! ## The entity -/

namespace Rules

/-- The longest text that the entity and its validator take for a field. -/
def textBound (f : FieldModel) : Option Nat :=
  (positive f.maxLength).filter fun _ => f.types.objectType == "string" && f.typeTag != "textarea"

/-- A property of an entity. -/
structure Property where
  isRequired : Bool
  maxLength : Option Nat
  type : String
  name : String
  startsEmpty : Bool

/-- The lines of a property. -/
def Property.text (p : Property) : String :=
  "\n" ++ (if p.isRequired then "    [Required]\n" else "") ++
    wrapped "    [MaxLength(" (p.maxLength.map toString) ")]\n" ++ "    public " ++ p.type ++ " " ++
    p.name ++ " \x7b get; set; \x7d" ++ (if p.startsEmpty then " = string.Empty;" else "") ++ "\n"

/-- The property of a field. -/
def Property.ofField (f : FieldModel) : Property :=
  { isRequired := f.required
    maxLength := textBound f
    type := f.types.objectType
    name := f.pascalName
    startsEmpty := f.required && f.types.objectType == "string" }

/-- The class of an entity. -/
structure Entity where
  stamp : String
  author : Option String
  imports : List String
  projectNamespace : String
  description : Option String
  name : String
  properties : List Property

/-- The written form of the class. -/
def Entity.text (e : Entity) : String :=
  "// <auto-generated>\n//     Generated by formgen on " ++ e.stamp ++
    wrapped " for " e.author "" ++
    ".\n// </auto-generated>\nusing System;\nusing System.ComponentModel.DataAnnotations;\n" ++
    String.join (e.imports.map fun name => "using " ++ name ++ ";\n") ++ "\nnamespace " ++
    e.projectNamespace ++ ".Models.Entities;\n\n" ++
    wrapped "/// <summary>\n/// " e.description "\n/// </summary>\n" ++ "public class " ++ e.name ++
    "\n\x7b\n    [Key]\n    public int Id \x7b get; set; \x7d\n" ++
    String.join (e.properties.map Property.text) ++
    "\n    public DateTime CreatedAt \x7b get; set; \x7d = DateTime.UtcNow;\n\n" ++
    "    public DateTime? UpdatedAt \x7b get; set; \x7d\n\x7d\n"

/-- The entity of a model. -/
def Entity.ofModel (m : Model) : Entity :=
  { stamp := m.generatedAt
    author := nonEmpty m.author
    imports := Keyed.values (Keyed.ofPairs m.additionalImports)
    projectNamespace := m.projectNamespace
    description := nonEmpty m.description
    name := m.entityName
    properties := m.fields.map Property.ofField }

theorem textBound_eq {f : FieldModel} {n : Nat} (h : textBound f = some n) :
    f.maxLength = some n ∧ 0 < n ∧ f.types.objectType = "string" ∧ f.typeTag ≠ "textarea" := by
  unfold textBound positive at h
  simp only [Option.filter_eq_some_iff, Bool.and_eq_true, beq_iff_eq, bne_iff_ne] at h
  obtain ⟨⟨hlength, hpos⟩, htype, htag⟩ := h
  exact ⟨hlength, Nat.pos_of_ne_zero hpos, htype, htag⟩

theorem isSome_textBound (f : FieldModel) : (textBound f).isSome =
    ((positive f.maxLength).isSome && f.types.objectType == "string" &&
      f.typeTag != "textarea") := by
  unfold textBound
  cases positive f.maxLength with
  | none => rfl
  | some n =>
      rw [Option.filter_some, Option.isSome_some, Bool.true_and]
      cases f.types.objectType == "string" && f.typeTag != "textarea" <;> rfl

/-- What prints a bound of the field prints its greatest length. -/
theorem valueText_maxLength {f : FieldModel} {isLast : Bool} {b : Bindings} (h : f.Seen isLast b)
    (bound : Option Nat) (hbound : ∀ n, bound = some n → f.maxLength = some n) :
    ∀ s, bound.map toString = some s → valueText ((valueOf "f.max_length").plain b) = s := by
  intro s hs
  obtain ⟨n, hn, rfl⟩ := Option.map_eq_some_iff.mp hs
  rw [plain_valueOf, h.maxLength, hbound n hn]
  rfl

/-- What prints a bound of the field from below prints its least length. -/
theorem valueText_minLength {f : FieldModel} {isLast : Bool} {b : Bindings} (h : f.Seen isLast b)
    (bound : Option Nat) (hbound : ∀ n, bound = some n → positive f.minLength = some n) :
    ∀ s, bound.map toString = some s → valueText ((valueOf "f.min_length").plain b) = s := by
  intro s hs
  obtain ⟨n, hn, rfl⟩ := Option.map_eq_some_iff.mp hs
  obtain ⟨hlength, -⟩ := Option.filter_eq_some_iff.mp (hbound n hn)
  rw [plain_valueOf, h.minLength, hlength]
  rfl

/-- The property of the field starts with an empty text. -/
theorem holds_startsEmpty {f : FieldModel} {isLast : Bool} {b : Bindings} (h : f.Seen isLast b) :
    (both (valueOf "f.required") (equals "f.object_type" "string")).holds b =
      (f.required && f.types.objectType == "string") := by
  rw [holds_both, holds_valueOf, h.required, isTruthy, holds_equals h.objectType]

theorem plain_property {f : FieldModel} {isLast : Bool} {b : Bindings} (h : f.Seen isLast b) :
    plainNodes propertyNodes b = (Property.ofField f).text := by
  have hmaxLength : (provided
      (both (both (valueOf "f.max_length") (equals "f.object_type" "string"))
        (differs "f.field_type" "textarea"))
      [.text "    [MaxLength(", put "f.max_length", .text ")]\n"]).plain b =
      wrapped "    [MaxLength(" ((textBound f).map toString) ")]\n" := by
    refine plain_wrapped ?_ (valueText_maxLength h _ fun n hn => (textBound_eq hn).1)
    rw [Option.isSome_map, isSome_textBound, holds_both, holds_both, holds_valueOf, h.maxLength,
      isTruthy_optionalNumber, holds_equals h.objectType, holds_differs h.typeTag]
  unfold Property.text Property.ofField
  simp [hmaxLength, holds_startsEmpty h, h.required, h.objectType, h.pascalName,
    String.append_assoc]

theorem plain_imports (b : Bindings) (n : Nat) (names : Keyed String) :
    plainRounds (plainNodes importNodes) (some "key") "ns" b n
      (Keyed.mapValues Value.string names) =
      String.join ((Keyed.values names).map fun name => "using " ++ name ++ ";\n") := by
  unfold Keyed.mapValues Keyed.values
  induction names generalizing n with
  | nil => rfl
  | cons p rest ih =>
      have hname : ∀ isLast, Bindings.get
          (roundBindings (some "key") "ns" n isLast (p.1, .string p.2) ++ b) "ns" = .string p.2 :=
        fun _ => rfl
      rw [List.map_cons, plainRounds, ih, List.map_cons, List.map_cons, String.join_cons]
      simp [hname, String.append_assoc]

theorem plain_entity {m : Model} {b : Bindings} (h : m.Seen b) :
    plainNodes entityNodes b = (Entity.ofModel m).text := by
  have hauthor : (provided (valueOf "author") [.text " for ", put "author"]).plain b =
      wrapped " for " (nonEmpty m.author) "" := by
    rw [plain_provided, holds_valueOf, h.author, isTruthy_optionalText]
    cases hauthor : nonEmpty m.author with
    | none => rfl
    | some s =>
        obtain ⟨hs, -⟩ := Option.filter_eq_some_iff.mp hauthor
        simp [h.author, hs, Value.ofOption, wrapped]
  have hdescription : (provided (valueOf "description")
      [.text "/// <summary>\n/// ", put "description", .text "\n/// </summary>\n"]).plain b =
      wrapped "/// <summary>\n/// " (nonEmpty m.description) "\n/// </summary>\n" := by
    refine plain_wrapped ?_ fun s hs => ?_
    · rw [holds_valueOf, h.description, isTruthy_optionalText]
    · obtain ⟨hs, -⟩ := Option.filter_eq_some_iff.mp hs
      rw [plain_valueOf, h.description, hs]
      rfl
  have himports :
      (Node.loop (some "key") "ns" (valueOf "additional_imports") importNodes none).plain b =
      String.join ((Keyed.values (Keyed.ofPairs m.additionalImports)).map fun name =>
        "using " ++ name ++ ";\n") := by
    rw [Node.plain, plain_valueOf, h.imports]
    exact plain_imports b 0 _
  have hproperties : (eachField propertyNodes).plain b =
      String.join ((m.fields.map Property.ofField).map Property.text) := by
    rw [plain_eachField h _ fun hf _ => plain_property hf, eachText_join, List.map_map]
    rfl
  unfold Entity.text Entity.ofModel
  simp [entityNodes, hauthor, hdescription, himports, hproperties, h.generatedAt,
    h.projectNamespace, h.entityName, String.append_assoc]

/-! ## The validator -/

/-- The rules of a property. -/
structure Rule where
  property : String
  requiredLabel : Option String
  maximumLength : Option Nat
  minimumLength : Option Nat
  isEmail : Bool
  pattern : Option String

/-- The statement of the rules. -/
def Rule.text (r : Rule) : String :=
  "        RuleFor(x => x." ++ r.property ++ ")" ++
    wrapped "\n            .NotEmpty().WithMessage(\"" r.requiredLabel " is required.\")" ++
    wrapped "\n            .MaximumLength(" (r.maximumLength.map toString) ")" ++
    wrapped "\n            .MinimumLength(" (r.minimumLength.map toString) ")" ++
    (if r.isEmail then "\n            .EmailAddress()" else "") ++
    wrapped "\n            .Matches(@\"" (r.pattern.map (Text.replaced "\"" "\"\"")) "\")" ++ ";\n"

/-- The rules of a field. -/
def Rule.ofField (f : FieldModel) : Rule :=
  { property := f.pascalName
    requiredLabel := if f.required then some f.label else none
    maximumLength := textBound f
    minimumLength := (positive f.minLength).filter fun _ => f.types.objectType == "string"
    isEmail := f.typeTag == "email"
    pattern := nonEmpty f.pattern }

/-- A field has rules. -/
def hasRules (f : FieldModel) : Bool :=
  f.required || (textBound f).isSome || (positive f.minLength).isSome || f.typeTag == "email" ||
    (nonEmpty f.pattern).isSome

/-- The class of a validator. -/
structure Validator where
  stamp : String
  projectNamespace : String
  entity : String
  rules : List Rule

/-- The written form of the class. -/
def Validator.text (v : Validator) : String :=
  "// <auto-generated>\n//     Generated by formgen on " ++ v.stamp ++
    ".\n// </auto-generated>\nusing FluentValidation;\nusing " ++ v.projectNamespace ++
    ".Models.DTOs;\n\nnamespace " ++ v.projectNamespace ++ ".Validation;\n\npublic class " ++
    v.entity ++ "Validator : AbstractValidator<Create" ++ v.entity ++ "Dto>\n\x7b\n    public " ++
    v.entity ++ "Validator()\n    \x7b\n" ++ String.join (v.rules.map Rule.text) ++
    "    \x7d\n\x7d\n"

/-- The validator of a model. -/
def Validator.ofModel (m : Model) : Validator :=
  { stamp := m.generatedAt
    projectNamespace := m.projectNamespace
    entity := m.entityName
    rules := (m.fields.filter hasRules).map Rule.ofField }

theorem plain_rule {f : FieldModel} {isLast : Bool} {b : Bindings} (h : f.Seen isLast b)
    (hbounded : b.get "bounded" = .bool (textBound f).isSome) :
    plainNodes ruleNodes b = (Rule.ofField f).text := by
  have hrequired : (provided (valueOf "f.required")
      [.text "\n            .NotEmpty().WithMessage(\"", put "f.label",
       .text " is required.\")"]).plain b =
      wrapped "\n            .NotEmpty().WithMessage(\"" (if f.required then some f.label else none)
        " is required.\")" := by
    refine plain_wrapped ?_ fun s hs => ?_
    · rw [holds_valueOf, h.required, isTruthy]
      cases f.required <;> rfl
    · obtain ⟨-, hs⟩ := Option.ite_none_right_eq_some.mp hs
      rw [plain_valueOf, h.label, valueText, Option.some.inj hs]
  have hmaximum : (provided (valueOf "bounded")
      [.text "\n            .MaximumLength(", put "f.max_length", .text ")"]).plain b =
      wrapped "\n            .MaximumLength(" ((textBound f).map toString) ")" := by
    refine plain_wrapped ?_ (valueText_maxLength h _ fun n hn => (textBound_eq hn).1)
    rw [holds_valueOf, hbounded, Option.isSome_map, isTruthy]
  have hminimum : (provided (both (equals "f.object_type" "string") (valueOf "f.min_length"))
      [.text "\n            .MinimumLength(", put "f.min_length", .text ")"]).plain b =
      wrapped "\n            .MinimumLength("
        (((positive f.minLength).filter fun _ => f.types.objectType == "string").map toString)
        ")" := by
    refine plain_wrapped ?_
      (valueText_minLength h _ fun n hn => (Option.filter_eq_some_iff.mp hn).1)
    rw [holds_both, holds_equals h.objectType, holds_valueOf, h.minLength, isTruthy_optionalNumber,
      Option.isSome_map, Bool.and_comm]
    cases positive f.minLength with
    | none => rfl
    | some n =>
        rw [Option.filter_some]
        cases f.types.objectType == "string" <;> rfl
  have hemail : (equals "f.field_type" "email").holds b = (f.typeTag == "email") :=
    holds_equals h.typeTag
  have hpattern : (provided (valueOf "f.pattern")
      [.text "\n            .Matches(@\"",
       .print (.mk (.name "f.pattern") false
        [.mk "replace" [("from", literal "\""), ("to", literal "\"\"")]]),
       .text "\")"]).plain b =
      wrapped "\n            .Matches(@\"" ((nonEmpty f.pattern).map (Text.replaced "\"" "\"\""))
        "\")" := by
    refine plain_wrapped ?_ fun s hs => ?_
    · rw [holds_valueOf, h.pattern, isTruthy_optionalText, Option.isSome_map]
    · obtain ⟨t, ht, rfl⟩ := Option.map_eq_some_iff.mp hs
      obtain ⟨ht, -⟩ := Option.filter_eq_some_iff.mp ht
      rw [plain_filtered, h.pattern, ht, Value.ofOption, plain_replaced, valueText]
  unfold Rule.text Rule.ofField
  simp [hrequired, hmaximum, hminimum, hemail, hpattern, h.pascalName, String.append_assoc]

/-- The nodes of a round of the validator's loop. -/
theorem plain_rules {f : FieldModel} {isLast : Bool} {b : Bindings} (h : f.Seen isLast b) :
    plainNodes ruleRoundNodes b = if hasRules f then (Rule.ofField f).text else "" := by
  have hbounded : (both (both (equals "f.object_type" "string") (valueOf "f.max_length"))
      (differs "f.field_type" "textarea")).plain b = .bool (textBound f).isSome := by
    rw [plain_both, holds_both, holds_equals h.objectType, holds_valueOf, h.maxLength,
      isTruthy_optionalNumber, holds_differs h.typeTag, isSome_textBound,
      Bool.and_comm (f.types.objectType == "string")]
  have h₁ := h.assigned "bounded" (.bool (textBound f).isSome) (by decide)
  generalize hb₁ : ("bounded", Value.bool (textBound f).isSome) :: b = b₁ at h₁
  have hget₁ : Bindings.get b₁ "bounded" = .bool (textBound f).isSome := by
    rw [← hb₁, get_assigned_self]
  have hrules : (either (either (either (either (valueOf "f.required") (valueOf "bounded"))
      (valueOf "f.min_length")) (equals "f.field_type" "email")) (valueOf "f.pattern")).plain b₁ =
      .bool (hasRules f) := by
    rw [plain_either, holds_either, holds_either, holds_either, holds_valueOf, holds_valueOf,
      holds_valueOf, holds_valueOf, h₁.required, hget₁, h₁.minLength, h₁.pattern,
      holds_equals h₁.typeTag, isTruthy_optionalNumber, isTruthy_optionalText]
    rfl
  have h₂ := h₁.assigned "has_rules" (.bool (hasRules f)) (by decide)
  have hget₂ : Bindings.get (("has_rules", Value.bool (hasRules f)) :: b₁) "bounded" =
      .bool (textBound f).isSome := by
    rw [get_assigned (by decide), hget₁]
  simp [hbounded, hb₁, hrules, get_assigned_self, plain_rule h₂ hget₂]

theorem plain_validator {m : Model} {b : Bindings} (h : m.Seen b) :
    plainNodes validatorNodes b = (Validator.ofModel m).text := by
  have hrules : (eachField ruleRoundNodes).plain b =
      String.join (((m.fields.filter hasRules).map Rule.ofField).map Rule.text) := by
    rw [plain_eachField h _ fun hf _ => plain_rules hf, eachText_join, List.map_map]
    exact join_filter hasRules _ m.fields
  unfold Validator.text Validator.ofModel
  simp [validatorNodes, hrules, h.generatedAt, h.projectNamespace, h.entityName,
    String.append_assoc]

/-! ## The schema -/

/-- A format of texts that the schema checks. -/
inductive Format where
  | email
  | url
  deriving DecidableEq

/-- The check of a format. -/
def Format.text (label : String) : Format → String
  | email => ".email(\"" ++ label ++ " must be a valid email address\")"
  | url => ".url(\"" ++ label ++ " must be a valid URL\")"

/-- The checks of a text. -/
structure TextChecks where
  label : String
  format : Option Format
  isRequired : Bool
  least : Option Nat
  most : Option Nat
  pattern : Option String
  deriving DecidableEq

/-- The written form of the checks. -/
def TextChecks.text (c : TextChecks) : String :=
  ((c.format.map (Format.text c.label)).getD "") ++
    wrapped ".min(" (c.least.map toString)
      (if c.isRequired then ", \"" ++ c.label ++ " is required\")" else ")") ++
    wrapped ".max(" (c.most.map toString) ")" ++
    wrapped ".regex(new RegExp(" (c.pattern.map fun s => (Value.string s).text) "))"

/-- A member of the schema. -/
structure Member where
  name : String
  base : String
  checks : Option TextChecks
  isOptional : Bool
  deriving DecidableEq

/-- The line of a member. -/
def Member.text (c : Member) : String :=
  "  " ++ c.name ++ ": " ++ c.base ++ ((c.checks.map TextChecks.text).getD "") ++
    (if c.isOptional then ".optional()" else "") ++ ",\n"

/-- What the schema takes for a frontend type. -/
def schemaBase (frontendType : String) : String :=
  if frontendType == "number" then "z.number()"
  else if frontendType == "boolean" then "z.boolean()"
  else if frontendType == "Date" then "z.coerce.date()"
  else if frontendType == "File" then "z.instanceof(File)"
  else "z.string()"

/-- The format of the texts of a field. -/
def formatOf (typeTag : String) : Option Format :=
  if typeTag == "email" then some .email else if typeTag == "url" then some .url else none

/-- The checks for the texts of a field. -/
def TextChecks.ofField (f : FieldModel) : TextChecks :=
  { label := f.label
    format := formatOf f.typeTag
    isRequired := f.required
    least := if f.required then some ((positive f.minLength).getD 1) else positive f.minLength
    most := (positive f.maxLength).filter fun _ => f.typeTag != "textarea"
    pattern := nonEmpty f.pattern }

/-- The member of a field. -/
def Member.ofField (f : FieldModel) : Member :=
  { name := f.camelName
    base := schemaBase f.types.frontendType
    checks := if f.types.frontendType == "string" then some (TextChecks.ofField f) else none
    isOptional := !f.required }

/-- The schema of a form. -/
structure Schema where
  stamp : String
  entity : String
  entityCamel : String
  members : List Member

/-- The written form of the schema. -/
def Schema.text (s : Schema) : String :=
  "// Generated by formgen on " ++ s.stamp ++
    "\nimport \x7b z \x7d from \"zod\";\n\nexport const " ++ s.entityCamel ++
    "Schema = z.object(\x7b\n" ++ String.join (s.members.map Member.text) ++
    "\x7d);\n\nexport type " ++ s.entity ++ "Input = z.infer<typeof " ++ s.entityCamel ++
    "Schema>;\n"

/-- The schema of a model. -/
def Schema.ofModel (m : Model) : Schema :=
  { stamp := m.generatedAt
    entity := m.entityName
    entityCamel := m.entityNameCamel
    members := m.fields.map Member.ofField }

/-- The name for the kind of value is given in every round. -/
theorem after_base {f : FieldModel} {isLast : Bool} {b : Bindings} (h : f.Seen isLast b) :
    baseNode.after b = ("base", .string (schemaBase f.types.frontendType)) :: b := by
  rw [baseNode, Node.after]
  simp only [afterCases, afterOptional, afterNodes_cons, afterNodes_nil, Node.after_assign,
    holds_equals h.frontendType]
  unfold schemaBase
  cases f.types.frontendType == "number"
  · cases f.types.frontendType == "boolean"
    · cases f.types.frontendType == "Date"
      · cases f.types.frontendType == "File" <;> rfl
      · rfl
    · rfl
  · rfl

theorem plain_base (b : Bindings) : baseNode.plain b = "" := by
  unfold baseNode
  exact Node.plain_branch_of_bodies (by simp) (by simp)

/-- The first two checks assign nothing. -/
theorem after_format (b : Bindings) : formatNode.after b = b := by
  unfold formatNode
  exact Node.after_branch_of_bodies (by simp) (by simp)

theorem after_least (b : Bindings) : leastNode.after b = b := by
  unfold leastNode
  exact Node.after_branch_of_bodies (by simp [Node.after_branch]) (by simp)

theorem after_checks (b : Bindings) : afterNodes checkNodes b = b := by
  simp [after_format, after_least]

theorem plain_format {f : FieldModel} {isLast : Bool} {b : Bindings} (h : f.Seen isLast b) :
    formatNode.plain b = ((formatOf f.typeTag).map (Format.text f.label)).getD "" := by
  rw [formatNode, Node.plain]
  simp only [plainCases, plainOptional, holds_equals h.typeTag]
  unfold formatOf
  cases f.typeTag == "email"
  · cases f.typeTag == "url"
    · rfl
    · unfold Format.text
      simp [h.label, String.append_assoc]
  · unfold Format.text
    simp [h.label, String.append_assoc]

/-- The least length that the schema takes for a required text. -/
theorem plain_leastOrOne {f : FieldModel} {isLast : Bool} {b : Bindings} (h : f.Seen isLast b) :
    (Node.branch [(valueOf "f.min_length", [put "f.min_length"])] (some [.text "1"])).plain b =
      toString ((positive f.minLength).getD 1) := by
  rw [Node.plain_branch, holds_valueOf, h.minLength, isTruthy_optionalNumber, plainOptional]
  cases hleast : positive f.minLength with
  | none => rfl
  | some n =>
      rw [Option.isSome_some, if_pos rfl, plainNodes_cons, plainNodes_nil, String.append_empty]
      exact valueText_minLength h (some n) (fun _ hn => hn ▸ hleast) _ rfl

theorem plain_least {f : FieldModel} {isLast : Bool} {b : Bindings} (h : f.Seen isLast b) :
    leastNode.plain b = wrapped ".min(" ((TextChecks.ofField f).least.map toString)
      (if f.required then ", \"" ++ f.label ++ " is required\")" else ")") := by
  have hleast : (TextChecks.ofField f).least =
      if f.required then some ((positive f.minLength).getD 1) else positive f.minLength := rfl
  rw [hleast, leastNode, Node.plain]
  simp only [plainCases, plainOptional, holds_valueOf, h.required, h.minLength]
  rw [isTruthy_optionalNumber, show isTruthy (.bool f.required) = f.required from rfl]
  cases f.required with
  | true =>
      simp [Node.after_branch, plain_leastOrOne h, h.label, wrapped, String.append_assoc]
  | false =>
      cases hpositive : positive f.minLength with
      | none => rfl
      | some n =>
          have hprinted : valueText (b.get "f.min_length") = toString n :=
            valueText_minLength h (some n) (fun _ hn => hn ▸ hpositive) _ rfl
          simp [hprinted, wrapped, String.append_assoc]

theorem plain_checks {f : FieldModel} {isLast : Bool} {b : Bindings} (h : f.Seen isLast b) :
    plainNodes checkNodes b = (TextChecks.ofField f).text := by
  have hmost : (provided (both (valueOf "f.max_length") (differs "f.field_type" "textarea"))
      [.text ".max(", put "f.max_length", .text ")"]).plain b =
      wrapped ".max(" ((TextChecks.ofField f).most.map toString) ")" := by
    refine plain_wrapped ?_ (valueText_maxLength h _ fun n hn => ?_)
    · rw [holds_both, holds_valueOf, h.maxLength, isTruthy_optionalNumber, holds_differs h.typeTag,
        Option.isSome_map]
      unfold TextChecks.ofField
      cases positive f.maxLength with
      | none => rfl
      | some n =>
          rw [Option.filter_some]
          cases f.typeTag != "textarea" <;> rfl
    · obtain ⟨hn, -⟩ := Option.filter_eq_some_iff.mp hn
      exact (Option.filter_eq_some_iff.mp hn).1
  have hpattern : (provided (valueOf "f.pattern")
      [.text ".regex(new RegExp(", .print (.mk (.name "f.pattern") false [.mk "json_encode" []]),
       .text "))"]).plain b =
      wrapped ".regex(new RegExp(" ((nonEmpty f.pattern).map fun s => (Value.string s).text)
        "))" := by
    refine plain_wrapped ?_ fun s hs => ?_
    · rw [holds_valueOf, h.pattern, isTruthy_optionalText, Option.isSome_map]
    · obtain ⟨t, ht, rfl⟩ := Option.map_eq_some_iff.mp hs
      obtain ⟨ht, -⟩ := Option.filter_eq_some_iff.mp ht
      rw [plain_filtered, h.pattern, ht, Value.ofOption, plain_encoded, valueText]
  have hnodes : plainNodes checkNodes b =
      formatNode.plain b ++ (leastNode.plain b ++ (wrapped ".max("
        ((TextChecks.ofField f).most.map toString) ")" ++ wrapped ".regex(new RegExp("
          ((nonEmpty f.pattern).map fun s => (Value.string s).text) "))")) := by
    simp [after_format, after_least, hmost, hpattern]
  rw [hnodes, plain_format h, plain_least h, ← String.append_assoc, ← String.append_assoc]
  rfl

theorem plain_member {f : FieldModel} {isLast : Bool} {b : Bindings} (h : f.Seen isLast b) :
    plainNodes memberNodes b = (Member.ofField f).text := by
  rw [plainNodes_cons, plain_base, after_base h]
  have hb := h.assigned "base" (.string (schemaBase f.types.frontendType)) (by decide)
  have hbase : Bindings.get (("base", Value.string (schemaBase f.types.frontendType)) :: b) "base" =
      .string (schemaBase f.types.frontendType) := get_assigned_self
  generalize ("base", Value.string (schemaBase f.types.frontendType)) :: b = b at hb hbase
  have hchecks : (provided (equals "f.frontend_type" "string") checkNodes).after b = b := by
    rw [after_provided, after_checks, ite_self]
  have hoptional : (provided (lacking "f.required") [.text ".optional()"]).after b = b := by
    simp
  simp only [plainNodes_cons, plainNodes_nil, Node.plain_text, Node.after_text, plain_put,
    after_put, hbase, hb.camelName, valueText, hchecks, hoptional]
  rw [plain_provided, plain_provided, holds_equals hb.frontendType, holds_lacking, hb.required,
    plain_checks hb, plainNodes_cons, plainNodes_nil, Node.plain_text]
  unfold Member.text Member.ofField
  cases f.types.frontendType == "string" <;> cases f.required <;>
    simp only [isTruthy, Bool.not_true, Bool.not_false, Bool.false_eq_true, if_true, if_false,
      Option.map_some, Option.map_none, Option.getD_some, Option.getD_none, String.append_assoc,
      String.append_empty, String.empty_append]

theorem plain_validationSchema {m : Model} {b : Bindings} (h : m.Seen b) :
    plainNodes validationSchemaNodes b = (Schema.ofModel m).text := by
  have hmembers : (eachField memberNodes).plain b =
      String.join ((m.fields.map Member.ofField).map Member.text) := by
    rw [plain_eachField h _ fun hf _ => plain_member hf, eachText_join, List.map_map]
    rfl
  unfold Schema.text Schema.ofModel
  simp [validationSchemaNodes, hmembers, h.generatedAt, h.entityName, h.entityNameCamel,
    String.append_assoc]

end Rules

end FormScaffold
