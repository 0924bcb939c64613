import FormScaffold.Proofs.Form.TypeTags
import FormScaffold.Proofs.Shipped.Literals
import FormScaffold.Proofs.Shipped.MemberNames

/-!
# Values of the tests

The tests give each required property a value, and expect that the validator takes the object.  The
value is chosen by the frontend type of the field, and the property has the field's object type.
The two differ for a time, whose property holds no text, and for a file, whose property does.  A
text is chosen without regard to the lengths that the validator asks for.
-/

namespace FormScaffold.Rules

open Template Shipped Text Literals

/-! ## What a property takes -/

/-- The units of a text that is given to a property, if it is one between quotes. -/
def Sample.units? : Sample → Option (List Nat)
  | quoted s =>
      match Dialect.ofClasses.read (s ++ "\"").toList with
      | some (us, []) => some us
      | _ => none
  | _ => none

/-- A value may be given to a property of a type. -/
def Sample.hasType (type : String) : Sample → Bool
  | quoted s => type == "string" && (quoted s).units?.isSome
  | one => type == "int" || type == "decimal"
  | yes => type == "bool"
  | today => type == "DateOnly"
  | now => type == "DateTime"

/-- Nothing but white space, none of which needs two units. -/
def areBlank (us : List Nat) : Bool := us.all fun u => isBlank (Char.ofNat u)

/-- A text keeps the rules on lengths: it is not blank if it is required, and has as many units as
are asked for. -/
def Rule.admits (r : Rule) (us : List Nat) : Bool :=
  (r.requiredLabel.isNone || !areBlank us) && (r.maximumLength.all fun n => us.length ≤ n) &&
    r.minimumLength.all fun n => n ≤ us.length

/-- The tests give the property of a field a value of its type that keeps the rules on lengths. -/
def Suited (f : FieldModel) : Prop :=
  ∃ v, Assignment.ofField? f = some ⟨f.pascalName, v⟩ ∧ v.hasType f.types.objectType = true ∧
    ∀ us, v.units? = some us → (Rule.ofField f).admits us = true

/-- A text may be given to the property of a field that is a required text. -/
structure SuitsText (field : FormField) (us : List Nat) : Prop where
  given : areBlank us = false
  atMost : ∀ n, field.maxLength = some n → 0 < n → typeTag field.fieldType ≠ "textarea" →
    us.length ≤ n
  atLeast : ∀ n, field.minLength = some n → n ≤ us.length

/-! ## Types of fields -/

/-- What the type of a field is to the tests. -/
inductive SampleKind (tag : String) (rule : TypeRule) : Prop where
  | time (htag : tag = "time") (hproperty : rule.property = .timeSpan)
      (hfrontend : rule.frontend = "string")
  | file (htag : tag = "file") (hproperty : rule.property = .string)
      (hfrontend : rule.frontend = "File")
  | text (htags : tag ≠ "time" ∧ tag ≠ "file") (hproperty : rule.property = .string)
      (hfrontend : rule.frontend = "string")
  | other (htags : tag ≠ "time" ∧ tag ≠ "file")
      (hproperty : rule.property ∈ [.int, .decimal, .bool, .date, .dateTime])
      (hfrontend : rule.frontend ≠ "string")

theorem sampleKind_typeRules : ∀ rule ∈ typeRules, ∀ tag ∈ rule.logicalTypes,
    SampleKind tag rule := by
  have htable : ∀ rule ∈ typeRules, ∀ tag ∈ rule.logicalTypes,
      (tag = "time" ∧ rule.property = .timeSpan ∧ rule.frontend = "string") ∨
      (tag = "file" ∧ rule.property = .string ∧ rule.frontend = "File") ∨
      ((tag ≠ "time" ∧ tag ≠ "file") ∧ rule.property = .string ∧ rule.frontend = "string") ∨
      ((tag ≠ "time" ∧ tag ≠ "file") ∧ rule.property ∈ [.int, .decimal, .bool, .date, .dateTime] ∧
        rule.frontend ≠ "string") := by
    decide
  intro rule hrule tag htag
  obtain ⟨h, hproperty, hfrontend⟩ | ⟨h, hproperty, hfrontend⟩ | ⟨h, hproperty, hfrontend⟩ |
    ⟨h, hproperty, hfrontend⟩ := htable rule hrule tag htag
  · exact .time h hproperty hfrontend
  · exact .file h hproperty hfrontend
  · exact .text h hproperty hfrontend
  · exact .other h hproperty hfrontend

/-- The row that gives a field its types. -/
def ruleOf (logicalType : String) : TypeRule := (typeRule? logicalType).getD fallbackRule

theorem sampleKind_ruleOf (logicalType : String) :
    SampleKind (typeTag logicalType) (ruleOf logicalType) := by
  unfold ruleOf
  cases hrule : typeRule? logicalType with
  | some rule =>
      obtain ⟨hmem, htag⟩ := typeRule?_eq_some_iff.mp hrule
      exact sampleKind_typeRules rule hmem _ htag
  | none =>
      -- A type that the table does not hold is none of those it holds.
      have hunknown := typeRule?_eq_none_iff.mp hrule
      refine .text ⟨fun htime => ?_, fun hfile => ?_⟩ rfl rfl
      · exact hunknown ⟨["time"], .timeSpan, .literal "TIME", "string"⟩ (by decide)
          (List.mem_singleton.mpr htime)
      · exact hunknown ⟨["file"], .string, .fixedText 500, "File"⟩ (by decide)
          (List.mem_singleton.mpr hfile)

/-! ## Required fields -/

section Required

variable {field : FormField} (hrequired : field.required = true)
include hrequired

theorem objectType_required :
    (FieldModel.ofField field).types.objectType = (ruleOf field.fieldType).property.name := by
  change (if field.required || (ruleOf field.fieldType).property.isReference then _ else _) = _
  rw [hrequired]
  rfl

theorem assignment_required : Assignment.ofField? (FieldModel.ofField field) =
    (Sample.ofField? (FieldModel.ofField field)).map
      (Assignment.mk (FieldModel.ofField field).pascalName) := by
  unfold Assignment.ofField?
  exact if_pos hrequired

/-- The rules on lengths of a required text. -/
theorem admits_required (htype : (FieldModel.ofField field).types.objectType = "string")
    (us : List Nat) :
    (Rule.ofField (FieldModel.ofField field)).admits us = true ↔ SuitsText field us := by
  -- a bound of zero makes no rule, and a text area has none on its greatest length
  have hmaximum : ∀ n, textBound (FieldModel.ofField field) = some n ↔
      field.maxLength = some n ∧ 0 < n ∧ typeTag field.fieldType ≠ "textarea" := by
    intro n
    unfold textBound positive
    simp only [Option.filter_eq_some_iff, htype, bne_iff_ne, Bool.and_eq_true, beq_self_eq_true,
      true_and, typeTag_ofField, Nat.pos_iff_ne_zero, and_assoc]
    rfl
  have hminimum : ∀ n, (Rule.ofField (FieldModel.ofField field)).minimumLength = some n ↔
      field.minLength = some n ∧ n ≠ 0 := by
    intro n
    unfold Rule.ofField positive
    simp only [Option.filter_eq_some_iff, htype, bne_iff_ne, beq_self_eq_true, and_true]
    rfl
  have hlabel : (Rule.ofField (FieldModel.ofField field)).requiredLabel.isNone = false := by
    unfold Rule.ofField
    rw [show (FieldModel.ofField field).required = true from hrequired]
    rfl
  unfold Rule.admits
  simp only [hlabel, Bool.false_or, Bool.and_eq_true, Bool.not_eq_true', Option.all_eq_true,
    decide_eq_true_eq, hminimum]
  change (_ ∧ ∀ n, textBound _ = some n → _) ∧ _ ↔ _
  simp only [hmaximum]
  constructor
  · rintro ⟨⟨hblank, hmost⟩, hleast⟩
    refine ⟨hblank, fun n hn hpos htag => hmost n ⟨hn, hpos, htag⟩, fun n hn => ?_⟩
    rcases Nat.eq_zero_or_pos n with rfl | hpos
    · exact Nat.zero_le _
    · exact hleast n ⟨hn, Nat.ne_of_gt hpos⟩
  · rintro ⟨hgiven, hmost, hleast⟩
    exact ⟨⟨hgiven, fun n hn => hmost n hn.1 hn.2.1 hn.2.2⟩, fun n hn => hleast n hn.1⟩

theorem suited_text (htype : (FieldModel.ofField field).types.objectType = "string")
    (hfrontend : (FieldModel.ofField field).types.frontendType = "string") :
    Suited (FieldModel.ofField field) ↔
      ∃ us, (Sample.quoted (sampleText (FieldModel.ofField field))).units? = some us ∧
        SuitsText field us := by
  have hsample : Sample.ofField? (FieldModel.ofField field) =
      some (.quoted (sampleText (FieldModel.ofField field))) := by
    unfold Sample.ofField?
    rw [hfrontend]
    rfl
  have hassignment := assignment_required hrequired
  rw [hsample, Option.map_some] at hassignment
  generalize sampleText (FieldModel.ofField field) = s at hassignment
  have hvtype : (Sample.quoted s).hasType (FieldModel.ofField field).types.objectType =
      (Sample.quoted s).units?.isSome := by
    rw [htype]
    exact Bool.true_and _
  unfold Suited
  rw [hassignment]
  constructor
  · rintro ⟨v, hv, hliteral, hadmits⟩
    obtain rfl := (Assignment.mk.inj (Option.some.inj hv)).2
    obtain ⟨us, hus⟩ := Option.isSome_iff_exists.mp (hvtype.symm.trans hliteral)
    exact ⟨us, hus, (admits_required hrequired htype us).mp (hadmits us hus)⟩
  · rintro ⟨us, hus, hsuits⟩
    refine ⟨.quoted s, rfl, hvtype.trans (Option.isSome_iff_exists.mpr ⟨us, hus⟩), fun vs hvs => ?_⟩
    obtain rfl := Option.some.inj (hus.symm.trans hvs)
    exact (admits_required hrequired htype us).mpr hsuits

/-- A value that is no text is of the type of its property. -/
theorem suited_other (hproperty : (ruleOf field.fieldType).property ∈
      [PropertyType.int, .decimal, .bool, .date, .dateTime])
    (hfrontend : (FieldModel.ofField field).types.frontendType ≠ "string") :
    Suited (FieldModel.ofField field) := by
  have htype := objectType_required hrequired
  have hsample : ∃ v, Sample.ofField? (FieldModel.ofField field) = some v ∧
      v.hasType (FieldModel.ofField field).types.objectType = true ∧ v.units? = none := by
    unfold Sample.ofField?
    rw [if_neg (by simpa using hfrontend), htype]
    simp only [List.mem_cons, List.not_mem_nil, or_false] at hproperty
    rcases hproperty with h | h | h | h | h <;> rw [h]
    · exact ⟨.one, by decide, by decide, rfl⟩
    · exact ⟨.one, by decide, by decide, rfl⟩
    · exact ⟨.yes, by decide, by decide, rfl⟩
    · exact ⟨.today, by decide, by decide, rfl⟩
    · exact ⟨.now, by decide, by decide, rfl⟩
  obtain ⟨v, hv, hvtype, hnone⟩ := hsample
  refine ⟨v, ?_, hvtype, fun us hus => absurd (hnone.symm.trans hus) nofun⟩
  rw [assignment_required hrequired, hv]
  rfl

/-- The text that is given to a time is of no type for times. -/
theorem not_suited_time (hproperty : (ruleOf field.fieldType).property = .timeSpan) :
    ¬ Suited (FieldModel.ofField field) := by
  rintro ⟨v, -, hvtype, -⟩
  rw [objectType_required hrequired, hproperty] at hvtype
  cases v <;> cases hvtype

/-- A file is given no value. -/
theorem not_suited_file (hproperty : (ruleOf field.fieldType).property = .string)
    (hfrontend : (FieldModel.ofField field).types.frontendType = "File") :
    ¬ Suited (FieldModel.ofField field) := by
  rintro ⟨v, hv, -, -⟩
  have hsample : Sample.ofField? (FieldModel.ofField field) = none := by
    unfold Sample.ofField?
    rw [hfrontend, objectType_required hrequired, hproperty]
    rfl
  rw [assignment_required hrequired, hsample] at hv
  cases hv

/-- The property of a required field is given what it takes if the field is neither a time nor a
file and, if it is a text, what is chosen for it keeps the bounds of the field. -/
theorem suited_iff : Suited (FieldModel.ofField field) ↔
    typeTag field.fieldType ≠ "time" ∧ typeTag field.fieldType ≠ "file" ∧
    ((FieldModel.ofField field).types.objectType = "string" →
      ∃ us, (Sample.quoted (sampleText (FieldModel.ofField field))).units? = some us ∧
        SuitsText field us) := by
  have htype := objectType_required hrequired
  have hfrontendOf : (FieldModel.ofField field).types.frontendType =
      (ruleOf field.fieldType).frontend := rfl
  cases sampleKind_ruleOf field.fieldType with
  | time htag hproperty _ =>
      exact ⟨fun h => absurd h (not_suited_time hrequired hproperty), fun h => absurd htag h.1⟩
  | file htag hproperty hfrontend =>
      exact ⟨fun h => absurd h (not_suited_file hrequired hproperty (hfrontendOf.trans hfrontend)),
        fun h => absurd htag h.2.1⟩
  | text htags hproperty hfrontend =>
      have htext : (FieldModel.ofField field).types.objectType = "string" := by
        rw [htype, hproperty]
        rfl
      rw [suited_text hrequired htext (hfrontendOf.trans hfrontend)]
      exact ⟨fun h => ⟨htags.1, htags.2, fun _ => h⟩, fun h => h.2.2 htext⟩
  | other htags hproperty hfrontend =>
      have hsuited := suited_other hrequired hproperty (hfrontendOf ▸ hfrontend)
      refine ⟨fun _ => ⟨htags.1, htags.2, fun htext => ?_⟩, fun _ => hsuited⟩
      have hnone : ∀ property ∈ [PropertyType.int, .decimal, .bool, .date, .dateTime],
          property.name ≠ "string" := by
        decide
      exact absurd (htype.symm.trans htext) (hnone _ hproperty)

end Required

/-! ## Forms -/

theorem renders_entityTests (world : Functions.World) (m : Model) :
    Renders world "entity_tests" m (UnitTests.ofModel m).text :=
  plain_entityTests (m.seen_given world.now) ▸ renders_of_reads
    (mem_sources_of_entry "tests/entity_tests.cs.tera" (by decide) rfl)
    reads_entityTests world m

/-- With the model of every form under all options at all times, the two templates make the written
forms of tests and a validator.  What the tests assign is assigned for a required field.  For each
such field the validator has rules, and the tests assign what they choose for it.  That is a value
of the property's type that keeps the rules on lengths, unless the field is a time or a file, or a
text for which what is chosen is no literal, is blank, or is too long or too short. -/
theorem test_values_suited_iff (form : FormDefinition) (options : GenerationOptions)
    (now : Calendar.Instant) (world : Functions.World) :
    Renders world "entity_tests" (Model.build form options now)
      (UnitTests.ofModel (Model.build form options now)).text ∧
    Renders world "validator" (Model.build form options now)
      (Validator.ofModel (Model.build form options now)).text ∧
    (∀ a ∈ (UnitTests.ofModel (Model.build form options now)).assignments, ∃ field ∈ form.fields,
      field.required = true ∧ Assignment.ofField? (FieldModel.ofField field) = some a) ∧
    ∀ field ∈ form.fields, field.required = true →
      Rule.ofField (FieldModel.ofField field) ∈
        (Validator.ofModel (Model.build form options now)).rules ∧
      (∀ a, Assignment.ofField? (FieldModel.ofField field) = some a →
        a ∈ (UnitTests.ofModel (Model.build form options now)).assignments) ∧
      (Suited (FieldModel.ofField field) ↔
        typeTag field.fieldType ≠ "time" ∧ typeTag field.fieldType ≠ "file" ∧
        ((FieldModel.ofField field).types.objectType = "string" →
          ∃ us, (Sample.quoted (sampleText (FieldModel.ofField field))).units? = some us ∧
            SuitsText field us)) := by
  refine ⟨renders_entityTests world _, renders_validator world _, fun a ha => ?_,
    fun field hfield hrequired => ⟨?_, fun a ha => ?_, suited_iff hrequired⟩⟩
  · obtain ⟨f, hf, hassigned⟩ := List.mem_filterMap.mp ha
    obtain ⟨field, hfield, rfl⟩ := List.mem_map.mp hf
    exact ⟨field, hfield, (Option.ite_none_right_eq_some.mp hassigned).1, hassigned⟩
  · have hrules : hasRules (FieldModel.ofField field) = true := by
      unfold hasRules
      rw [show (FieldModel.ofField field).required = true from hrequired]
      simp only [Bool.true_or]
    exact List.mem_map_of_mem (List.mem_filter.mpr ⟨List.mem_map_of_mem hfield, hrules⟩)
  · exact List.mem_filterMap.mpr ⟨_, List.mem_map_of_mem hfield, ha⟩

theorem titleField_suited : titleField ∈ [titleField, sizeField] ∧ titleField.required = true ∧
    Suited (FieldModel.ofField titleField) := by
  have hfield : titleField ∈ [titleField, sizeField] := List.mem_cons_self
  have hrequired : titleField.required = true := by decide
  have hunits : (Sample.quoted (sampleText (FieldModel.ofField titleField))).units? =
      some (unitsOf "Title".toList) := by decide
  have hsuits : SuitsText titleField (unitsOf "Title".toList) :=
    ⟨by decide, fun n hn _ _ => by cases hn; decide, fun n hn => by cases hn⟩
  obtain ⟨-, -, -, hfields⟩ := test_values_suited_iff ⟨none, none, [titleField, sizeField]⟩
    (.bare "catalog") ⟨0, 0⟩ ⟨⟨0, 0⟩, []⟩
  exact ⟨hfield, hrequired,
    (hfields titleField hfield hrequired).2.2.mpr
      ⟨by decide, by decide, fun _ => ⟨_, hunits, hsuits⟩⟩⟩

/-- A form with a time, a file and a text of at most three characters, all of them required. -/
def receiptForm : FormDefinition :=
  ⟨none, none,
    [⟨"start", "time", true, none, none, none, none, none, none, []⟩,
     ⟨"scan", "file", true, none, none, none, none, none, none, []⟩,
     ⟨"code", "text", true, none, none, none, some 3, none, none, []⟩]⟩

/-- The model of the form. -/
def receiptModel : Model := Model.build receiptForm (.bare "receipt") ⟨0, 0⟩

/-- The form is accepted.  Its tests give the time a text, which its property does not take, the
file nothing, and the text four characters, which the validator refuses. -/
theorem receiptForm_unsuited : receiptForm.validate = .ok () ∧
    Renders ⟨⟨0, 0⟩, []⟩ "entity_tests" receiptModel (UnitTests.ofModel receiptModel).text ∧
    (UnitTests.ofModel receiptModel).assignments.map Assignment.text =
      ["        Start = \"Start\",\n", "        Code = \"Code\",\n"] ∧
    Renders ⟨⟨0, 0⟩, []⟩ "dto" receiptModel (TransferObjects.ofModel receiptModel).text ∧
    (TransferObjects.ofModel receiptModel).slots.map Slot.text =
      ["    public TimeSpan Start \x7b get; set; \x7d\n",
       "    public string Scan \x7b get; set; \x7d = string.Empty;\n",
       "    public string Code \x7b get; set; \x7d = string.Empty;\n"] ∧
    Renders ⟨⟨0, 0⟩, []⟩ "validator" receiptModel (Validator.ofModel receiptModel).text ∧
    (Validator.ofModel receiptModel).rules.map Rule.text =
      ["        RuleFor(x => x.Start)\n            .NotEmpty().WithMessage(\"Start is required.\");\n",
       "        RuleFor(x => x.Scan)\n            .NotEmpty().WithMessage(\"Scan is required.\");\n",
       "        RuleFor(x => x.Code)\n            .NotEmpty().WithMessage(\"Code is required.\")" ++
        "\n            .MaximumLength(3);\n"] ∧
    (Sample.quoted "Code").units? = some [67, 111, 100, 101] ∧
    ∀ f ∈ receiptModel.fields, ¬ Suited f := by
  refine ⟨by decide, renders_entityTests _ _, by decide, renders_dto _ _, by decide,
    renders_validator _ _, by decide, by decide, fun f hf hsuited => ?_⟩
  obtain ⟨field, hfield, rfl⟩ := List.mem_map.mp hf
  have hrequired : ∀ field ∈ receiptForm.fields, field.required = true := by decide
  obtain ⟨htime, hfile, htext⟩ := (suited_iff (hrequired field hfield)).mp hsuited
  simp only [receiptForm, List.mem_cons, List.not_mem_nil, or_false] at hfield
  rcases hfield with rfl | rfl | rfl
  · exact htime (by decide)
  · exact hfile (by decide)
  · obtain ⟨us, hus, hsuits⟩ := htext (by decide)
    have hcode : (Sample.quoted (sampleText (FieldModel.ofField
        ⟨"code", "text", true, none, none, none, some 3, none, none, []⟩))).units? =
        some [67, 111, 100, 101] := by decide
    obtain rfl := Option.some.inj (hcode.symm.trans hus)
    exact absurd (hsuits.atMost 3 rfl (by decide) (by decide)) (by decide)

end FormScaffold.Rules
