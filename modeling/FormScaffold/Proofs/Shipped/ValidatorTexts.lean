import FormScaffold.Proofs.Json.Scalars
import FormScaffold.Proofs.Shipped.LengthBounds
import FormScaffold.Proofs.Shipped.Literals
import Mathlib.Data.Bool.AllAny

/-!
# Texts of a form in its validators

The validator and the schema hold two texts that a form gives to a field.  The pattern of a text is
put with its quotes doubled in the one and as a JSON text in the other, and is read back from both
whatever it is.  The label is put as it is, so a message is read as the label and what follows it
only if no character of the label means something else between quotes.
-/

namespace FormScaffold.Rules

open Template Shipped Literals

/-! ## Rules without a text -/

/-- The rules of a property but for its pattern. -/
def Rule.withoutPattern (r : Rule) : Rule := { r with pattern := none }

/-- The rules of a property but for its being required. -/
def Rule.withoutLabel (r : Rule) : Rule := { r with requiredLabel := none }

/-- A member of the schema with other checks. -/
def Member.withChecks (c : Member) (change : TextChecks → TextChecks) : Member :=
  { c with checks := c.checks.map change }

/-- A member of the schema but for its pattern. -/
def Member.withoutPattern (c : Member) : Member := c.withChecks fun k => { k with pattern := none }

/-- A member of the schema but for its least length. -/
def Member.withoutLeast (c : Member) : Member := c.withChecks fun k => { k with least := none }

theorem Rule.text_pattern {r : Rule} {p : String} (h : r.pattern = some p) :
    ∃ before, r.withoutPattern.text = before ++ ";\n" ∧
      r.text = before ++ "\n            .Matches(@\"" ++
        (Text.replaced "\"" "\"\"" p ++ "\"" ++ ");\n") := by
  have hclose : "\")" ++ ";\n" = "\"" ++ ");\n" := by decide
  refine ⟨"        RuleFor(x => x." ++ r.property ++ ")" ++
    wrapped "\n            .NotEmpty().WithMessage(\"" r.requiredLabel " is required.\")" ++
    wrapped "\n            .MaximumLength(" (r.maximumLength.map toString) ")" ++
    wrapped "\n            .MinimumLength(" (r.minimumLength.map toString) ")" ++
    (if r.isEmail then "\n            .EmailAddress()" else ""), ?_, ?_⟩
  · unfold Rule.text Rule.withoutPattern
    simp only [Option.map_none, wrapped, String.append_empty]
  · unfold Rule.text
    simp only [h, Option.map_some, wrapped, String.append_assoc, hclose]

theorem Rule.text_label {r : Rule} {label : String} (h : r.requiredLabel = some label) :
    ∃ before after, r.withoutLabel.text = before ++ after ∧
      r.text = before ++ "\n            .NotEmpty().WithMessage(\"" ++
        (label ++ " is required." ++ "\"" ++ (")" ++ after)) := by
  have hclose : " is required.\")" = " is required." ++ ("\"" ++ ")") := by decide
  refine ⟨"        RuleFor(x => x." ++ r.property ++ ")",
    wrapped "\n            .MaximumLength(" (r.maximumLength.map toString) ")" ++
    wrapped "\n            .MinimumLength(" (r.minimumLength.map toString) ")" ++
    (if r.isEmail then "\n            .EmailAddress()" else "") ++
    wrapped "\n            .Matches(@\"" (r.pattern.map (Text.replaced "\"" "\"\"")) "\")" ++ ";\n",
    ?_, ?_⟩
  · unfold Rule.text Rule.withoutLabel
    simp only [wrapped, String.append_assoc, String.empty_append]
  · unfold Rule.text
    simp only [h, wrapped, hclose, String.append_assoc]

theorem Member.text_pattern {c : Member} {checks : TextChecks} {p : String}
    (hchecks : c.checks = some checks) (h : checks.pattern = some p) :
    ∃ before after, c.withoutPattern.text = before ++ after ∧
      c.text =
        before ++ ".regex(new RegExp(" ++ (.string p : Json.Value).text ++ "))" ++ after := by
  refine ⟨"  " ++ c.name ++ ": " ++ c.base ++
    ((checks.format.map (Format.text checks.label)).getD "") ++
    wrapped ".min(" (checks.least.map toString)
      (if checks.isRequired then ", \"" ++ checks.label ++ " is required\")" else ")") ++
    wrapped ".max(" (checks.most.map toString) ")",
    (if c.isOptional then ".optional()" else "") ++ ",\n", ?_, ?_⟩
  · unfold Member.text Member.withoutPattern Member.withChecks TextChecks.text
    simp only [hchecks, Option.map_some, Option.map_none, Option.getD_some, wrapped,
      String.append_assoc, String.append_empty]
  · unfold Member.text TextChecks.text
    simp only [hchecks, h, Option.map_some, Option.getD_some, wrapped, String.append_assoc]

theorem Member.text_label {c : Member} {checks : TextChecks} {n : Nat}
    (hchecks : c.checks = some checks) (hrequired : checks.isRequired = true)
    (h : checks.least = some n) :
    ∃ before after, c.withoutLeast.text = before ++ after ∧
      c.text = before ++ ".min(" ++ toString n ++ ", \"" ++
        (checks.label ++ " is required" ++ "\"" ++ (")" ++ after)) := by
  have hclose : " is required\")" = " is required" ++ ("\"" ++ ")") := by decide
  refine ⟨"  " ++ c.name ++ ": " ++ c.base ++
    ((checks.format.map (Format.text checks.label)).getD ""),
    wrapped ".max(" (checks.most.map toString) ")" ++
    wrapped ".regex(new RegExp(" (checks.pattern.map fun s => (.string s : Json.Value).text) "))" ++
    (if c.isOptional then ".optional()" else "") ++ ",\n", ?_, ?_⟩
  · unfold Member.text Member.withoutLeast Member.withChecks TextChecks.text
    simp only [hchecks, Option.map_some, Option.map_none, Option.getD_some, wrapped,
      String.append_assoc, String.empty_append]
  · unfold Member.text TextChecks.text
    simp only [hchecks, h, hrequired, if_true, Option.map_some, Option.getD_some, wrapped, hclose,
      String.append_assoc]

/-! ## Patterns -/

/-- A JSON text is read back from after its opening quote. -/
theorem readString_text (s behind : String) :
    ∃ written, (.string s : Json.Value).text ++ behind = "\"" ++ written ∧
      Json.readString written.toList = .ok (s, behind.toList) := by
  refine ⟨String.ofList (s.toList.flatMap Json.escapeChar ++ '"' :: behind.toList), ?_, ?_⟩
  · rw [← String.toList_inj, String.toList_append, String.toList_append, String.toList_ofList]
    exact (congrArg (· ++ behind.toList) String.toList_ofList).trans
      (by simp [Json.quoted, Json.Value.compact])
  · rw [String.toList_ofList]
    exact Json.readString_quoted s behind.toList

/-- The pattern of a field is one that the validators hold. -/
theorem nonEmpty_pattern {f : FieldModel} {p : String} (hpattern : f.pattern = some p)
    (hne : p ≠ "") : nonEmpty f.pattern = some p := by
  rw [hpattern]
  refine Option.filter_eq_some_iff.mpr ⟨rfl, ?_⟩
  simpa using hne

/-- With the model of every form under all options at all times, the templates make the written
forms of a validator and a schema.  For every field that is a text with a pattern, the rules of its
property are those without the pattern and a statement with a text in which quotes are doubled, and
its member of the schema is that without the pattern and a check with a JSON text.  Each text is
read as the pattern, up to its closing quote. -/
theorem patterns_read_back (form : FormDefinition) (options : GenerationOptions)
    (now : Calendar.Instant) (world : Functions.World) :
    let m := Model.build form options now
    Renders world "validator" m (Validator.ofModel m).text ∧
    Renders world "validation_schema" m (Schema.ofModel m).text ∧
    ∀ field ∈ form.fields,
      (FieldModel.ofField field).types.objectType = "string" →
      (FieldModel.ofField field).types.frontendType = "string" →
      ∀ p, field.pattern = some p → p ≠ "" →
        (∃ rule ∈ (Validator.ofModel m).rules, rule = .ofField (FieldModel.ofField field) ∧
          ∃ before literal, rule.withoutPattern.text = before ++ ";\n" ∧
            rule.text = before ++ "\n            .Matches(@\"" ++ literal ∧
            readVerbatim literal.toList = some (p.toList, ");\n".toList)) ∧
        ∃ member ∈ (Schema.ofModel m).members, member = .ofField (FieldModel.ofField field) ∧
          ∃ before literal after, member.withoutPattern.text = before ++ after ∧
            member.text = before ++ ".regex(new RegExp(\"" ++ literal ∧
            Json.readString literal.toList = .ok (p, ("))" ++ after).toList) := by
  intro m
  refine ⟨renders_validator world m, renders_validationSchema world m,
    fun field hfield _ hfrontend p hp hne => ?_⟩
  have hfields : FieldModel.ofField field ∈ m.fields := List.mem_map_of_mem hfield
  have hpattern : nonEmpty (FieldModel.ofField field).pattern = some p := nonEmpty_pattern hp hne
  -- nothing but the model of the field counts from here on
  generalize FieldModel.ofField field = f at hfields hpattern hfrontend
  constructor
  · have hrules : hasRules f = true := by
      unfold hasRules
      rw [hpattern, Option.isSome_some, Bool.or_true]
    obtain ⟨before, hwithout, htext⟩ := Rule.text_pattern (r := .ofField f) hpattern
    exact ⟨_, List.mem_map_of_mem (List.mem_filter.mpr ⟨hfields, hrules⟩), rfl, before, _, hwithout,
      htext, readVerbatim_replaced p (by decide)⟩
  · have hchecks : (Member.ofField f).checks = some (.ofField f) :=
      if_pos (beq_iff_eq.mpr hfrontend)
    obtain ⟨before, after, hwithout, htext⟩ := Member.text_pattern hchecks hpattern
    obtain ⟨literal, hliteral, hread⟩ := readString_text p ("))" ++ after)
    refine ⟨_, List.mem_map_of_mem hfields, rfl, before, literal, after, hwithout, ?_, hread⟩
    have hopen : ".regex(new RegExp(\"" = ".regex(new RegExp(" ++ "\"" := by decide
    rw [htext, hopen]
    simp only [String.append_assoc] at hliteral ⊢
    rw [hliteral]

/-- A text whose pattern has a quote at either end, a backslash and the end of a line. -/
def quotedField : FormField :=
  ⟨"code", "text", false, none, none, none, none, none, some "\"\\d\n\"", []⟩

theorem quotedField_read_back :
    ((FieldModel.ofField quotedField).types.objectType = "string" ∧
      (FieldModel.ofField quotedField).types.frontendType = "string" ∧
      quotedField.pattern = some "\"\\d\n\"") ∧
    ∃ before literal, (Rule.ofField (FieldModel.ofField quotedField)).text =
        before ++ "\n            .Matches(@\"" ++ literal ∧
      readVerbatim literal.toList = some ("\"\\d\n\"".toList, ");\n".toList) := by
  have htypes : (FieldModel.ofField quotedField).types.objectType = "string" ∧
      (FieldModel.ofField quotedField).types.frontendType = "string" := by decide
  obtain ⟨⟨rule, -, rfl, before, literal, -, htext, hread⟩, -⟩ :=
    (patterns_read_back ⟨none, none, [quotedField]⟩ (.bare "receipt") ⟨0, 0⟩ ⟨⟨0, 0⟩, []⟩).2.2
      quotedField List.mem_cons_self htypes.1 htypes.2 _ rfl (by decide)
  exact ⟨⟨htypes.1, htypes.2, rfl⟩, before, literal, htext, hread⟩

/-! ## Labels -/

/-- With the model of every form under all options at all times, the templates make the written
forms of a validator and a schema.  For every required field, the rules of its property are those
without its being required and a statement with a message, and if it is a text, its member of the
schema is that without the least length and a check with a message.  Each message is read as the
label and what follows it exactly if all characters of the label stand for themselves between
quotes, in the classes and in the scripts. -/
theorem labels_stand_iff (form : FormDefinition) (options : GenerationOptions)
    (now : Calendar.Instant) (world : Functions.World) :
    let m := Model.build form options now
    Renders world "validator" m (Validator.ofModel m).text ∧
    Renders world "validation_schema" m (Schema.ofModel m).text ∧
    ∀ field ∈ form.fields, field.required = true →
      ∀ label, label = (FieldModel.ofField field).label →
        (∃ rule ∈ (Validator.ofModel m).rules, rule = .ofField (FieldModel.ofField field) ∧
          ∃ before after, rule.withoutLabel.text = before ++ after ∧
            rule.text = before ++ "\n            .NotEmpty().WithMessage(\"" ++
              (label ++ " is required." ++ "\"" ++ (")" ++ after)) ∧
            (Dialect.ofClasses.StandsForItself (label ++ " is required.") (")" ++ after) ↔
              ∀ c ∈ label.toList, Dialect.ofClasses.IsPlain c)) ∧
        ((FieldModel.ofField field).types.frontendType = "string" →
          ∃ member ∈ (Schema.ofModel m).members, member = .ofField (FieldModel.ofField field) ∧
            ∃ before after, ∃ least : Nat, member.withoutLeast.text = before ++ after ∧
              member.text = before ++ ".min(" ++ toString least ++ ", \"" ++
                (label ++ " is required" ++ "\"" ++ (")" ++ after)) ∧
              (Dialect.ofScripts.StandsForItself (label ++ " is required") (")" ++ after) ↔
                ∀ c ∈ label.toList, Dialect.ofScripts.IsPlain c)) := by
  intro m
  refine ⟨renders_validator world m, renders_validationSchema world m,
    fun field hfield hrequired label hlabel => ?_⟩
  have hfields : FieldModel.ofField field ∈ m.fields := List.mem_map_of_mem hfield
  have hrequired : (FieldModel.ofField field).required = true := hrequired
  subst hlabel
  generalize FieldModel.ofField field = f at hfields hrequired
  constructor
  · have hrules : hasRules f = true := by
      unfold hasRules
      rw [hrequired]
      simp only [Bool.true_or]
    have hlabel : (Rule.ofField f).requiredLabel = some f.label := if_pos hrequired
    obtain ⟨before, after, hwithout, htext⟩ := Rule.text_label hlabel
    exact ⟨_, List.mem_map_of_mem (List.mem_filter.mpr ⟨hfields, hrules⟩), rfl, before, after,
      hwithout, htext, Dialect.standsForItself_append_iff (List.all_iff_forall_prop.mp (by decide))⟩
  · intro hfrontend
    have hchecks : (Member.ofField f).checks = some (.ofField f) :=
      if_pos (beq_iff_eq.mpr hfrontend)
    have hleast : (TextChecks.ofField f).least = some ((positive f.minLength).getD 1) :=
      if_pos hrequired
    obtain ⟨before, after, hwithout, htext⟩ := Member.text_label hchecks hrequired hleast
    exact ⟨_, List.mem_map_of_mem hfields, rfl, before, after, _, hwithout, htext,
      Dialect.standsForItself_append_iff (List.all_iff_forall_prop.mp (by decide))⟩

/-- A required text with marks in its label that mean nothing between quotes. -/
def markedField : FormField :=
  ⟨"size", "text", true, some "Größe 'A' & co.", none, none, none, none, none, []⟩

theorem markedField_stands : markedField.required = true ∧
    (FieldModel.ofField markedField).label = "Größe 'A' & co." ∧
    (FieldModel.ofField markedField).types.frontendType = "string" ∧
    (∃ before after, (Rule.ofField (FieldModel.ofField markedField)).text =
        before ++ "\n            .NotEmpty().WithMessage(\"" ++
          ("Größe 'A' & co." ++ " is required." ++ "\"" ++ (")" ++ after)) ∧
      Dialect.ofClasses.StandsForItself ("Größe 'A' & co." ++ " is required.") (")" ++ after)) ∧
    ∃ before after, ∃ least : Nat, (Member.ofField (FieldModel.ofField markedField)).text =
        before ++ ".min(" ++ toString least ++ ", \"" ++
          ("Größe 'A' & co." ++ " is required" ++ "\"" ++ (")" ++ after)) ∧
      Dialect.ofScripts.StandsForItself ("Größe 'A' & co." ++ " is required") (")" ++ after) := by
  have hfrontend : (FieldModel.ofField markedField).types.frontendType = "string" := by decide
  obtain ⟨⟨rule, -, rfl, before, after, -, htext, hstands⟩, hschema⟩ :=
    (labels_stand_iff ⟨none, none, [markedField]⟩ (.bare "receipt") ⟨0, 0⟩ ⟨⟨0, 0⟩, []⟩).2.2
      markedField List.mem_cons_self rfl _ rfl
  obtain ⟨member, -, rfl, before', after', least, -, htext', hstands'⟩ := hschema hfrontend
  exact ⟨rfl, rfl, hfrontend,
    ⟨before, after, htext, hstands.mpr (List.all_iff_forall_prop.mp (by decide))⟩,
    ⟨before', after', least, htext', hstands'.mpr (List.all_iff_forall_prop.mp (by decide))⟩⟩

/-- A form with a required text whose label has a word in quotes. -/
def quotingForm : FormDefinition :=
  ⟨none, none, [⟨"size", "text", true, some "The \"size\"", none, none, none, none, none, []⟩]⟩

/-- Options that ask for a validator and a schema. -/
def validatorOptions : GenerationOptions :=
  { GenerationOptions.bare "receipt" with objectModel := true, uiComponents := true }

/-- The form and the options are accepted.  The message of the validator and that of the schema both
end at the first quote of the label. -/
theorem quotingForm_cut : quotingForm.validate = .ok () ∧ validatorOptions.validate = .ok () ∧
    Renders ⟨⟨0, 0⟩, []⟩ "validator" (Model.build quotingForm validatorOptions ⟨0, 0⟩)
      (Validator.ofModel (Model.build quotingForm validatorOptions ⟨0, 0⟩)).text ∧
    (Validator.ofModel (Model.build quotingForm validatorOptions ⟨0, 0⟩)).rules.map Rule.text =
      ["        RuleFor(x => x.Size)\n            .NotEmpty().WithMessage(\"" ++
        "The \"size\" is required.\");\n"] ∧
    Dialect.ofClasses.read "The \"size\" is required.\");\n".toList =
      some (unitsOf "The ".toList, "size\" is required.\");\n".toList) ∧
    Renders ⟨⟨0, 0⟩, []⟩ "validation_schema" (Model.build quotingForm validatorOptions ⟨0, 0⟩)
      (Schema.ofModel (Model.build quotingForm validatorOptions ⟨0, 0⟩)).text ∧
    (Schema.ofModel (Model.build quotingForm validatorOptions ⟨0, 0⟩)).members.map Member.text =
      ["  size: z.string().min(1, \"The \"size\" is required\"),\n"] ∧
    Dialect.ofScripts.read "The \"size\" is required\"),\n".toList =
      some (unitsOf "The ".toList, "size\" is required\"),\n".toList) :=
  ⟨by decide, by decide, renders_validator _ _, by decide, by decide, renders_validationSchema _ _,
    by decide, by decide⟩

end FormScaffold.Rules
