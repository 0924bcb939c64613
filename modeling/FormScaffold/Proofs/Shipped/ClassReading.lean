import FormScaffold.Proofs.Model.Names
import FormScaffold.Proofs.Shipped.FrontendReading
import FormScaffold.Proofs.Shipped.Literals
import FormScaffold.Proofs.Shipped.TransferObjects

/-!
# Classes read back

The entity and the two classes in which it is sent and taken are written declaration by declaration,
and read that way: a type up to the blank behind it, a name up to the next one.  Neither has a
blank in the classes of a model, so these are read as what they declare for every form.  The
statements of a validator are read rule by rule, if no name has the bracket behind the names and no
label that stands in a message has a quote.
-/

namespace FormScaffold.Rules

open Template Shipped Literals Text Reader

/-! ## Declared properties -/

/-- A property that a class declares, with the lines before it and what it starts as. -/
structure Declaration where
  attributes : String
  type : String
  name : String
  initial : String
  deriving DecidableEq

namespace Declaration

/-- The lines of a declaration. -/
def text (d : Declaration) : String :=
  d.attributes ++ "    public " ++ d.type ++ " " ++ d.name ++ " \x7b get; set; \x7d" ++
    d.initial ++ "\n"

/-- The type, the name and the initial value of a property. -/
def signature (d : Declaration) : String × String × String := (d.type, d.name, d.initial)

/-- The declaration of an entity's property. -/
def ofProperty (p : Property) : Declaration :=
  { attributes := (if p.isRequired then "    [Required]\n" else "") ++
      wrapped "    [MaxLength(" (p.maxLength.map toString) ")]\n"
    type := p.type
    name := p.name
    initial := if p.startsEmpty then " = string.Empty;" else "" }

/-- The declaration of a slot. -/
def ofSlot (s : Slot) : Declaration :=
  ⟨"", s.type, s.name, if s.startsEmpty then " = string.Empty;" else ""⟩

/-- The declarations of a class that is stored or sent: those given, and three around them. -/
def withCommon (attributes initial : String) (ds : List Declaration) : List Declaration :=
  ⟨attributes, "int", "Id", ""⟩ :: ds ++
    [⟨"", "DateTime", "CreatedAt", initial⟩, ⟨"", "DateTime?", "UpdatedAt", ""⟩]

/-- What is told of the declarations of such a class. -/
theorem map_withCommon {α : Type} (told : Declaration → α) (attributes initial : String)
    (ds : List Declaration) : (withCommon attributes initial ds).map told =
      told ⟨attributes, "int", "Id", ""⟩ :: ds.map told ++
        [told ⟨"", "DateTime", "CreatedAt", initial⟩, told ⟨"", "DateTime?", "UpdatedAt", ""⟩] := by
  unfold withCommon
  rw [List.cons_append, List.map_cons, List.map_append]
  rfl

end Declaration

/-- The written form of a class with declarations. -/
def classText (name : String) (ds : List Declaration) : String :=
  "public class " ++ name ++ "\n\x7b\n" ++
    String.intercalate "\n" (ds.map Declaration.text) ++ "\x7d\n"

/-- The declarations of an entity. -/
def Entity.declarations (e : Entity) : List Declaration :=
  Declaration.withCommon "    [Key]\n" " = DateTime.UtcNow;" (e.properties.map .ofProperty)

/-- The file of an entity up to its class. -/
def Entity.head (e : Entity) : String :=
  "// <auto-generated>\n//     Generated by formgen on " ++ e.stamp ++
    wrapped " for " e.author "" ++
    ".\n// </auto-generated>\nusing System;\nusing System.ComponentModel.DataAnnotations;\n" ++
    String.join (e.imports.map fun name => "using " ++ name ++ ";\n") ++ "\nnamespace " ++
    e.projectNamespace ++ ".Models.Entities;\n\n" ++
    wrapped "/// <summary>\n/// " e.description "\n/// </summary>\n"

namespace TransferObjects

/-- The declarations of the class that is taken. -/
def taken (t : TransferObjects) : List Declaration := t.slots.map .ofSlot

/-- The declarations of the class that is sent. -/
def sent (t : TransferObjects) : List Declaration := Declaration.withCommon "" "" t.taken

/-- The file of the two classes up to them. -/
def head (t : TransferObjects) : String :=
  "// <auto-generated>\n//     Generated by formgen on " ++ t.stamp ++
    ".\n// </auto-generated>\nnamespace " ++ t.projectNamespace ++ ".Models.DTOs;\n\n"

end TransferObjects

/-! ## Texts of classes -/

theorem text_ofProperty (p : Property) : p.text = "\n" ++ (Declaration.ofProperty p).text := by
  unfold Property.text Declaration.text Declaration.ofProperty
  simp only [String.append_assoc]

theorem text_ofSlot (s : Slot) : s.text = (Declaration.ofSlot s).text := by
  unfold Slot.text Declaration.text Declaration.ofSlot
  simp only [String.append_assoc, String.empty_append]

/-- What follows the first text is each time put after a separator. -/
theorem intercalate_cons (separator x : String) (xs : List String) :
    String.intercalate separator (x :: xs) = x ++ String.join (xs.map (separator ++ ·)) := by
  induction xs generalizing x with
  | nil => rw [String.intercalate_singleton, List.map_nil, String.join_nil, String.append_empty]
  | cons y ys ih =>
      rw [String.intercalate_cons_cons, ih, List.map_cons, String.join_cons, String.append_assoc,
        String.append_assoc]

/-- The declarations of a class with the common ones, from the first of these to the last. -/
theorem intercalate_withCommon (attributes initial : String) (ds : List Declaration) :
    String.intercalate "\n" ((Declaration.withCommon attributes initial ds).map Declaration.text) =
      attributes ++ "    public int Id \x7b get; set; \x7d\n" ++
        String.join (ds.map fun d => "\n" ++ d.text) ++
        "\n    public DateTime CreatedAt \x7b get; set; \x7d" ++ initial ++ "\n\n" ++
        "    public DateTime? UpdatedAt \x7b get; set; \x7d\n" := by
  have hid : (Declaration.mk attributes "int" "Id" "").text =
      attributes ++ "    public int Id \x7b get; set; \x7d\n" := by
    have hline :
        "    public " ++ ("int" ++ (" " ++ ("Id" ++ (" \x7b get; set; \x7d" ++ ("" ++ "\n"))))) =
          "    public int Id \x7b get; set; \x7d\n" := by decide
    unfold Declaration.text
    simp only [String.append_assoc, hline]
  have hcreated : (Declaration.mk "" "DateTime" "CreatedAt" initial).text =
      "    public DateTime CreatedAt \x7b get; set; \x7d" ++ (initial ++ "\n") := by
    have hline : "" ++ "    public " ++ "DateTime" ++ " " ++ "CreatedAt" ++ " \x7b get; set; \x7d" =
        "    public DateTime CreatedAt \x7b get; set; \x7d" := by decide
    unfold Declaration.text
    rw [hline, String.append_assoc]
  have hupdated : (Declaration.mk "" "DateTime?" "UpdatedAt" "").text =
      "    public DateTime? UpdatedAt \x7b get; set; \x7d\n" := by decide
  -- the break between two declarations goes to the start of the second, as the template has it
  unfold Declaration.withCommon
  rw [List.cons_append, List.map_cons, intercalate_cons]
  simp only [List.map_append, List.map_cons, List.map_nil, List.map_map, String.join_append,
    String.join_cons, String.join_nil, Function.comp_def, hid, hcreated, hupdated]
  have hbetween : "\n" ++ "    public DateTime CreatedAt \x7b get; set; \x7d" =
      "\n    public DateTime CreatedAt \x7b get; set; \x7d" := by decide
  have hlines : "\n\n" = "\n" ++ "\n" := by decide
  rw [← hbetween, hlines]
  simp only [String.append_assoc, String.append_empty]

theorem text_entity (e : Entity) : e.text = e.head ++ classText e.name e.declarations := by
  have hopen : "\n\x7b\n    [Key]\n    public int Id \x7b get; set; \x7d\n" =
      "\n\x7b\n" ++ ("    [Key]\n" ++ "    public int Id \x7b get; set; \x7d\n") := by decide
  have hcommon : "\n    public DateTime CreatedAt \x7b get; set; \x7d = DateTime.UtcNow;\n\n" =
      "\n    public DateTime CreatedAt \x7b get; set; \x7d" ++
        (" = DateTime.UtcNow;" ++ "\n\n") := by
    decide
  have hclose : "    public DateTime? UpdatedAt \x7b get; set; \x7d\n\x7d\n" =
      "    public DateTime? UpdatedAt \x7b get; set; \x7d\n" ++ "\x7d\n" := by decide
  unfold Entity.text Entity.head classText Entity.declarations
  rw [intercalate_withCommon, List.map_map, hopen, hcommon, hclose]
  simp only [Function.comp_def, ← text_ofProperty, String.append_assoc]

theorem text_transferObjects (t : TransferObjects) :
    t.text = t.head ++ classText (t.entity ++ "Dto") t.sent ++ "\n" ++
      classText ("Create" ++ t.entity ++ "Dto") t.taken := by
  have hopen : "Dto\n\x7b\n    public int Id \x7b get; set; \x7d\n" =
      "Dto" ++ ("\n\x7b\n" ++ ("" ++ "    public int Id \x7b get; set; \x7d\n")) := by decide
  have hcommon : "\n    public DateTime CreatedAt \x7b get; set; \x7d\n\n" =
      "\n    public DateTime CreatedAt \x7b get; set; \x7d" ++ ("" ++ "\n\n") := by
    decide
  have hnext : "    public DateTime? UpdatedAt \x7b get; set; \x7d\n\x7d\n\npublic class Create" =
      "    public DateTime? UpdatedAt \x7b get; set; \x7d\n" ++ ("\x7d\n" ++ ("\n" ++
        ("public class " ++ "Create"))) := by decide
  have hhead : ".Models.DTOs;\n\npublic class " = ".Models.DTOs;\n\n" ++ "public class " := by
    decide
  have hbody : "Dto\n\x7b\n" = "Dto" ++ "\n\x7b\n" := by decide
  unfold TransferObjects.text TransferObjects.head classText TransferObjects.sent
  rw [intercalate_withCommon, hopen, hcommon, hnext, hhead, hbody]
  unfold TransferObjects.taken
  simp only [List.map_map, Function.comp_def, ← text_ofSlot, String.append_assoc]

/-! ## Declarations read -/

/-- A line in brackets. -/
def attributeText (line : String) : String := "    [" ++ line ++ "\n"

/-- A line in brackets. -/
def attributeReader : Reader String := do
  exactly "    ["
  let line ← upTo '\n'
  pure (attributeText line)

/-- A declaration with the lines before it. -/
def declarationReader : Reader Declaration := do
  let attributes ← attributeReader.repeatedly
  exactly "    public "
  let type ← upTo ' '
  let name ← upTo ' '
  exactly "\x7b get; set; \x7d"
  let initial ← upTo '\n'
  pure ⟨String.join attributes, type, name, initial⟩

/-- A declaration is told by its lines. -/
structure Declaration.IsLegible (d : Declaration) : Prop where
  attributes : ∃ lines : List String, (∀ line ∈ lines, '\n' ∉ line.toList) ∧
    d.attributes = String.join (lines.map attributeText)
  type : ' ' ∉ d.type.toList
  name : ' ' ∉ d.name.toList
  initial : '\n' ∉ d.initial.toList

theorem reads_attribute {line : String} (h : '\n' ∉ line.toList) :
    Reads attributeReader (attributeText line) (attributeText line) := by
  unfold attributeText
  rw [String.append_assoc]
  exact (reads_exactly _).bind ((reads_upTo rfl h).last (.pure _))

theorem refuses_declaration {t : String} (hattribute : differs "    [".toList t.toList = true)
    (hpublic : differs "    public ".toList t.toList = true) : Refuses declarationReader t :=
  .repeatedly_nil (refuses_start hattribute) (refuses_start hpublic)

theorem Declaration.IsLegible.reads {d : Declaration} (h : d.IsLegible) :
    Reads declarationReader d.text d := by
  obtain ⟨lines, hlines, hattributes⟩ := h.attributes
  have hbreak : " \x7b get; set; \x7d" = " " ++ "\x7b get; set; \x7d" := by decide
  have htext : d.text = String.join (lines.map attributeText) ++ ("    public " ++ (d.type ++ " " ++
      (d.name ++ " " ++ ("\x7b get; set; \x7d" ++ (d.initial ++ "\n"))))) := by
    unfold Declaration.text
    rw [hattributes, hbreak]
    simp only [String.append_assoc]
  have hread : Reads declarationReader d.text
      ⟨String.join (lines.map attributeText), d.type, d.name, d.initial⟩ := htext ▸
    .repeatedly_map (fun line hline => reads_attribute (hlines line hline))
      ((refuses_start (by decide)).append _)
      ((reads_exactly _).bind ((reads_upTo rfl h.type).bind ((reads_upTo rfl h.name).bind
        ((reads_exactly _).bind ((reads_upTo rfl h.initial).last (.pure _))))))
  rwa [← hattributes] at hread

/-! ## Classes read -/

/-- A class with its declarations, between which a line is left empty. -/
def classReader : Reader (String × List Declaration) := do
  exactly "public class "
  let name ← upTo '\n'
  exactly "\x7b\n"
  let first ← optionally declarationReader
  let others ← repeatedly do
    exactly "\n"
    declarationReader
  exactly "\x7d\n"
  pure (name, first.toList ++ others)

/-- A class is read as what it declares. -/
theorem reads_class {name : String} (hname : '\n' ∉ name.toList) {ds : List Declaration}
    (hds : ∀ d ∈ ds, d.IsLegible) : Reads classReader (classText name ds) (name, ds) := by
  have hopen : "\n\x7b\n" = "\n" ++ "\x7b\n" := by decide
  have hclose : Refuses declarationReader "\x7d\n" := refuses_declaration (by decide) (by decide)
  -- the declarations behind the first one, each with the empty line before it
  have hothers : ∀ (first : Option Declaration) (others : List Declaration),
      (∀ d ∈ others, d.IsLegible) →
      Reads (do
        let others ← repeatedly do
          exactly "\n"
          declarationReader
        exactly "\x7d\n"
        pure (name, first.toList ++ others))
        (String.join ((others.map Declaration.text).map ("\n" ++ ·)) ++ "\x7d\n")
        (name, first.toList ++ others) := by
    intro first others h
    rw [List.map_map]
    exact .repeatedly (fun d hd => (reads_exactly "\n").bind (h d hd).reads)
      (refuses_start (by decide)) ((reads_exactly _).last (.pure _))
  unfold classText
  rw [hopen]
  cases ds with
  | nil =>
      rw [List.map_nil, String.intercalate_nil]
      simp only [String.append_assoc]
      rw [← @String.append_assoc name]
      exact (reads_exactly _).bind ((reads_upTo rfl hname).bind ((reads_exactly _).bind
        (.optionally_none hclose (hothers none [] nofun))))
  | cons d ds =>
      rw [List.map_cons, intercalate_cons]
      simp only [String.append_assoc]
      rw [← @String.append_assoc name]
      exact (reads_exactly _).bind ((reads_upTo rfl hname).bind ((reads_exactly _).bind
        (.optionally_some (hds d List.mem_cons_self).reads
          (hothers (some d) ds fun d hd => hds d (List.mem_cons_of_mem _ hd)))))

/-! ## The rules of a validator -/

/-- The rule that a text is given, with the label in its message. -/
def requiredReader : Reader String := do
  exactly "\n            .NotEmpty().WithMessage(\""
  let label ← labelReader " is required."
  exactly ")"
  pure label

/-- The rule of a pattern, whose quotes are doubled. -/
def matchesReader : Reader String := do
  exactly "\n            .Matches(@\""
  let pattern ← fun cs => (readVerbatim cs).map fun p => (String.ofList p.1, p.2)
  exactly ")"
  pure pattern

/-- The statement of the rules of a property. -/
def ruleReader : Reader Rule := do
  exactly "        RuleFor(x => x."
  let property ← upTo ')'
  let requiredLabel ← optionally requiredReader
  let maximumLength ← optionally (boundReader "\n            .MaximumLength(")
  let minimumLength ← optionally (boundReader "\n            .MinimumLength(")
  let email ← optionally (exactly "\n            .EmailAddress()")
  let pattern ← optionally matchesReader
  exactly ";\n"
  pure ⟨property, requiredLabel, maximumLength, minimumLength, email.isSome, pattern⟩

/-- A rule is told by its statement. -/
structure Rule.IsLegible (r : Rule) : Prop where
  property : ')' ∉ r.property.toList
  label : ∀ label, r.requiredLabel = some label → '"' ∉ label.toList

theorem reads_required {label : String} (hlabel : '"' ∉ label.toList) :
    Reads requiredReader
      ("\n            .NotEmpty().WithMessage(\"" ++ label ++ " is required.\")") label := by
  have hend : " is required.\")" = " is required." ++ ("\"" ++ ")") := by decide
  have htext : "\n            .NotEmpty().WithMessage(\"" ++ label ++ " is required.\")" =
      "\n            .NotEmpty().WithMessage(\"" ++
        (label ++ " is required." ++ "\"" ++ ")") := by
    rw [hend]
    simp only [String.append_assoc]
  rw [htext]
  exact (reads_exactly _).bind ((reads_label hlabel (by decide)).bind
    ((reads_exactly ")").last (.pure _)))

theorem reads_matches (s : String) : Reads matchesReader
    ("\n            .Matches(@\"" ++ Text.replaced "\"" "\"\"" s ++ "\")") s := by
  have hend : "\")" = "\"" ++ ")" := by decide
  rw [hend, String.append_assoc]
  refine (reads_exactly _).bind fun rest => ?_
  have htext : (Text.replaced "\"" "\"\"" s ++ ("\"" ++ ")")).toList ++ rest =
      (Text.replaced "\"" "\"\"" s ++ "\"" ++ String.ofList (')' :: rest)).toList := by
    simp only [String.toList_append, String.toList_ofList, List.append_assoc]
    rfl
  -- another quote behind the closing one would be read as one that is doubled
  have hbehind : (String.ofList (')' :: rest)).toList.head? ≠ some '"' := by
    rw [String.toList_ofList, List.head?_cons]
    exact fun hquote => absurd (Option.some.inj hquote) (by decide)
  rw [bind_apply, htext, readVerbatim_replaced s hbehind, Option.map_some, Option.bind_some,
    String.toList_ofList, String.ofList_toList]
  exact (reads_exactly ")").last (.pure s) rest

theorem Rule.IsLegible.reads {r : Rule} (h : r.IsLegible) : Reads ruleReader r.text r := by
  have hlabel : r.requiredLabel = r.requiredLabel.map id := by rw [Option.map_id, id]
  have hmatches : Refuses matchesReader ";\n" := refuses_start (by decide)
  unfold Rule.text ruleReader
  rw [hlabel]
  simp only [String.append_assoc]
  rw [← @String.append_assoc r.property ")"]
  refine (reads_exactly _).bind ((reads_upTo rfl h.property).bind (reads_wrapped
    (fun l hl => reads_required (h.label l hl)) ?_ (reads_wrapped (fun n _ => reads_bound _ n) ?_
      (reads_wrapped (fun n _ => reads_bound _ n) ?_ (.flag ?_ (reads_wrapped
        (fun p _ => reads_matches p) hmatches ((reads_exactly _).last ?_)))))))
  -- a part is refused in the place of an earlier one, with whatever parts behind it
  · exact refuses_wrapped (refuses_start (by decide))
      (refuses_wrapped (refuses_start (by decide))
        (.flag (refuses_start (by decide))
          (refuses_wrapped (refuses_start (by decide))
            (refuses_start (by decide)))))
  · exact refuses_wrapped (refuses_start (by decide))
      (.flag (refuses_start (by decide))
        (refuses_wrapped (refuses_start (by decide))
          (refuses_start (by decide))))
  · exact .flag (refuses_start (by decide))
      (refuses_wrapped (refuses_start (by decide))
        (refuses_start (by decide)))
  · exact refuses_wrapped (refuses_exactly (by decide)) (refuses_exactly (by decide))
  · obtain ⟨property, requiredLabel, maximumLength, minimumLength, isEmail, pattern⟩ := r
    cases isEmail <;> exact .pure _

/-- The statements of a validator, behind which its class ends. -/
def rulesReader : Reader (List Rule) := do
  let rules ← ruleReader.repeatedly
  exactly "    \x7d\n\x7d\n"
  pure rules

/-- The written form of the statements of a validator. -/
def rulesText (rules : List Rule) : String :=
  String.join (rules.map Rule.text) ++ "    \x7d\n\x7d\n"

/-- What stands before the statements of a validator. -/
def Validator.head (v : Validator) : String :=
  "// <auto-generated>\n//     Generated by formgen on " ++ v.stamp ++
    ".\n// </auto-generated>\nusing FluentValidation;\nusing " ++ v.projectNamespace ++
    ".Models.DTOs;\n\nnamespace " ++ v.projectNamespace ++ ".Validation;\n\npublic class " ++
    v.entity ++ "Validator : AbstractValidator<Create" ++ v.entity ++ "Dto>\n\x7b\n    public " ++
    v.entity ++ "Validator()\n    \x7b\n"

theorem Validator.text_head (v : Validator) : v.text = v.head ++ rulesText v.rules := by
  unfold Validator.text Validator.head rulesText
  rw [String.append_assoc]

/-- The statements of a validator are read as its rules. -/
theorem reads_rules {rules : List Rule} (h : ∀ r ∈ rules, r.IsLegible) :
    Reads rulesReader (rulesText rules) rules :=
  .repeatedly (fun r hr => (h r hr).reads) (refuses_start (by decide))
    ((reads_exactly _).last (.pure _))

/-- A text ends with the statements of rules, which are read as the rules. -/
structure HasRules (text : String) (rules : List Rule) : Prop where
  stands : ∃ before, text = before ++ rulesText rules
  reads : Reads rulesReader (rulesText rules) rules

/-- The name of a field in the classes does not have the bracket behind names, and its label, if it
stands in a message, does not have a quote. -/
structure IsRuleLegible (f : FieldModel) : Prop where
  name : ')' ∉ f.pascalName.toList
  label : f.required = true → '"' ∉ f.label.toList

theorem IsRuleLegible.rule {f : FieldModel} (h : IsRuleLegible f) : (Rule.ofField f).IsLegible where
  property := h.name
  label := by
    intro label hlabel
    obtain ⟨hrequired, heq⟩ := Option.ite_none_right_eq_some.mp hlabel
    exact Option.some.inj heq ▸ h.label hrequired

theorem hasRules_validator {m : Model} (h : ∀ f ∈ m.fields, IsRuleLegible f) :
    HasRules (Validator.ofModel m).text (Validator.ofModel m).rules where
  stands := ⟨_, Validator.text_head _⟩
  reads := reads_rules <| by
    unfold Validator.ofModel
    simp only [List.forall_mem_map]
    exact fun f hf => (h f (List.mem_filter.mp hf).1).rule

/-! ## The classes of a model -/

/-- A text has a class in it that is read as what it declares. -/
structure HasClass (text name : String) (ds : List Declaration) : Prop where
  stands : ∃ before after, text = before ++ classText name ds ++ after
  reads : Reads classReader (classText name ds) (name, ds)

theorem break_not_mem_toString (n : Nat) : '\n' ∉ (toString n).toList := by
  intro hmem
  have hdigits : (toString n).toList = Nat.toDigits 10 n := Nat.toList_repr
  rw [hdigits] at hmem
  exact absurd (Nat.isDigit_of_mem_toDigits (by decide) (by decide) hmem) (by decide)

theorem break_not_mem_start : ∀ startsEmpty : Bool,
    '\n' ∉ (if startsEmpty then " = string.Empty;" else "").toList := by
  decide

theorem isLegible_ofProperty {p : Property} (htype : ' ' ∉ p.type.toList)
    (hname : ' ' ∉ p.name.toList) : (Declaration.ofProperty p).IsLegible where
  attributes := by
    refine ⟨(if p.isRequired then ["Required]"] else []) ++
      (p.maxLength.map fun n => "MaxLength(" ++ toString n ++ ")]").toList,
      fun line hline => ?_, ?_⟩
    · rcases List.mem_append.mp hline with hline | hline
      · obtain ⟨-, hline⟩ := List.mem_ite_nil_right.mp hline
        rw [List.mem_singleton.mp hline]
        decide
      · obtain ⟨n, -, rfl⟩ := Option.map_eq_some_iff.mp (Option.mem_toList.mp hline)
        exact not_mem_append (not_mem_append (by decide) (break_not_mem_toString n)) (by decide)
    · have hrequired : attributeText "Required]" = "    [Required]\n" := by decide
      have hlength : ∀ n : String, attributeText ("MaxLength(" ++ n ++ ")]") =
          "    [MaxLength(" ++ n ++ ")]\n" := by
        have hopen : "    [MaxLength(" = "    [" ++ "MaxLength(" := by decide
        have hclose : ")]\n" = ")]" ++ "\n" := by decide
        intro n
        unfold attributeText
        rw [hopen, hclose]
        simp only [String.append_assoc]
      unfold Declaration.ofProperty
      rw [List.map_append, String.join_append]
      cases p.isRequired <;> cases p.maxLength <;>
        simp [wrapped, hrequired, hlength]
  type := htype
  name := hname
  initial := break_not_mem_start p.startsEmpty

theorem isLegible_ofSlot {s : Slot} (htype : ' ' ∉ s.type.toList) (hname : ' ' ∉ s.name.toList) :
    (Declaration.ofSlot s).IsLegible where
  attributes := ⟨[], nofun, rfl⟩
  type := htype
  name := hname
  initial := break_not_mem_start s.startsEmpty

theorem isLegible_withCommon {attributes initial : String} {ds : List Declaration}
    (hattributes : attributes = String.join ([].map attributeText) ∨
      attributes = String.join (["Key]"].map attributeText))
    (hinitial : '\n' ∉ initial.toList) (hds : ∀ d ∈ ds, d.IsLegible) :
    ∀ d ∈ Declaration.withCommon attributes initial ds, d.IsLegible := by
  have hempty : '\n' ∉ "".toList := by decide
  have hnames : ∀ word ∈ ["int", "Id", "DateTime", "CreatedAt", "DateTime?", "UpdatedAt"],
      ' ' ∉ word.toList := by
    decide
  have hlines : ∃ lines : List String, (∀ line ∈ lines, '\n' ∉ line.toList) ∧
      attributes = String.join (lines.map attributeText) := by
    rcases hattributes with h | h
    · exact ⟨[], nofun, h⟩
    · exact ⟨["Key]"], by decide, h⟩
  simp only [List.forall_mem_cons] at hnames
  obtain ⟨hint, hid, htime, hcreated, hmaybe, hupdated, -⟩ := hnames
  simp only [Declaration.withCommon, List.cons_append, List.forall_mem_cons,
    List.forall_mem_append]
  exact ⟨⟨hlines, hint, hid, hempty⟩, hds, ⟨⟨[], nofun, rfl⟩, htime, hcreated, hinitial⟩,
    ⟨⟨[], nofun, rfl⟩, hmaybe, hupdated, hempty⟩, nofun⟩

section Built

variable (form : FormDefinition) (options : GenerationOptions) (now : Calendar.Instant)

/-- The class of an entity is read as what it declares. -/
theorem reads_entityClass :
    Reads classReader (classText (Model.build form options now).entityName
        (Entity.ofModel (Model.build form options now)).declarations)
      ((Model.build form options now).entityName,
        (Entity.ofModel (Model.build form options now)).declarations) := by
  refine reads_class (Model.marks_not_mem_entityName form options now '\n' (by decide))
    (isLegible_withCommon (.inr rfl) (by decide) ?_)
  unfold Entity.ofModel
  simp only [List.forall_mem_map]
  exact fun f hf => isLegible_ofProperty (Model.blank_not_mem_objectType hf)
    (Model.blank_not_mem_pascalName hf)

theorem isLegible_taken : ∀ d ∈ (TransferObjects.ofModel (Model.build form options now)).taken,
    d.IsLegible := by
  unfold TransferObjects.taken TransferObjects.ofModel
  simp only [List.forall_mem_map]
  exact fun f hf => isLegible_ofSlot (Model.blank_not_mem_objectType hf)
    (Model.blank_not_mem_pascalName hf)

/-- The class in which an entity is sent is read as what it declares. -/
theorem reads_sentClass :
    Reads classReader (classText ((Model.build form options now).entityName ++ "Dto")
        (TransferObjects.ofModel (Model.build form options now)).sent)
      ((Model.build form options now).entityName ++ "Dto",
        (TransferObjects.ofModel (Model.build form options now)).sent) := by
  have hname := Model.marks_not_mem_entityName form options now '\n' (by decide)
  exact reads_class (not_mem_append hname (by decide))
    (isLegible_withCommon (.inl rfl) (by decide) (isLegible_taken form options now))

/-- The class in which a new entity is taken is read as what it declares. -/
theorem reads_takenClass :
    Reads classReader (classText ("Create" ++ (Model.build form options now).entityName ++ "Dto")
        (TransferObjects.ofModel (Model.build form options now)).taken)
      ("Create" ++ (Model.build form options now).entityName ++ "Dto",
        (TransferObjects.ofModel (Model.build form options now)).taken) := by
  have hname := Model.marks_not_mem_entityName form options now '\n' (by decide)
  exact reads_class (not_mem_append (not_mem_append (by decide) hname) (by decide))
    (isLegible_taken form options now)

theorem hasClass_entity : HasClass (Entity.ofModel (Model.build form options now)).text
    (Model.build form options now).entityName
    (Entity.ofModel (Model.build form options now)).declarations where
  stands := ⟨_, "", by rw [String.append_empty]; exact text_entity _⟩
  reads := reads_entityClass form options now

theorem hasClass_sent : HasClass (TransferObjects.ofModel (Model.build form options now)).text
    ((Model.build form options now).entityName ++ "Dto")
    (TransferObjects.ofModel (Model.build form options now)).sent where
  stands := ⟨_, _, by rw [text_transferObjects, String.append_assoc]; rfl⟩
  reads := reads_sentClass form options now

theorem hasClass_taken : HasClass (TransferObjects.ofModel (Model.build form options now)).text
    ("Create" ++ (Model.build form options now).entityName ++ "Dto")
    (TransferObjects.ofModel (Model.build form options now)).taken where
  stands := ⟨_, "", by rw [String.append_empty]; exact text_transferObjects _⟩
  reads := reads_takenClass form options now

end Built

end FormScaffold.Rules
