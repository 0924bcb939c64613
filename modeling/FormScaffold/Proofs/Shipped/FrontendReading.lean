import FormScaffold.Proofs.Json.Scalars
import FormScaffold.Proofs.Shipped.FormTypes
import FormScaffold.Proofs.Text.Reading

/-!
# Types and schemas read back

The file of the types has two interfaces at its start, and the file of the schema has an object.
Both are read from the left: the line of a key up to the blank behind its name, the line of a member
check by check.  What is written is read as what it was written for, if no required key ends with
the mark of those that may be missing and no label ends the text that it stands in.
-/

namespace FormScaffold.Rules

open Template Shipped Text Reader

/-! ## Interfaces -/

/-- The key with a name, behind which a mark may stand. -/
def InterfaceKey.ofWord (word type : String) : InterfaceKey :=
  match withoutEnd? "?" word with
  | some name => ⟨name, true, type⟩
  | none => ⟨word, false, type⟩

/-- The line of a key. -/
def keyReader : Reader InterfaceKey := do
  exactly "  "
  let written ← upTo ' '
  let word ← given (withoutEnd? ":" written)
  let type ← upTo ';'
  exactly "\n"
  pure (.ofWord word type)

/-- A key is told by its line. -/
structure InterfaceKey.IsLegible (k : InterfaceKey) : Prop where
  name : ' ' ∉ k.name.toList
  unmarked : k.isOptional = false → k.name.toList.getLast? ≠ some '?'
  type : ';' ∉ k.type.toList

theorem InterfaceKey.IsLegible.reads {k : InterfaceKey} (h : k.IsLegible) :
    Reads keyReader k.text k := by
  obtain ⟨word, hword⟩ : ∃ word, word = k.name ++ if k.isOptional then "?" else "" := ⟨_, rfl⟩
  have htext : k.text = "  " ++ (word ++ ":" ++ " " ++ (k.type ++ ";" ++ "\n")) := by
    have hcolon : ": " = ":" ++ " " := rfl
    have hend : ";\n" = ";" ++ "\n" := rfl
    unfold InterfaceKey.text
    rw [hword, hcolon, hend]
    simp only [String.append_assoc]
  have hblank : ' ' ∉ (word ++ ":").toList := by
    rw [hword]
    cases k.isOptional <;> simp [String.toList_append, h.name]
  have hkey : InterfaceKey.ofWord word k.type = k := by
    obtain ⟨name, isOptional, type⟩ := k
    unfold InterfaceKey.ofWord
    cases isOptional with
    | true => rw [hword, if_pos rfl, withoutEnd?_append]
    | false =>
        rw [hword, if_neg Bool.false_ne_true, String.append_empty,
          withoutEnd?_eq_none rfl (h.unmarked rfl)]
  have hread : Reads keyReader k.text (InterfaceKey.ofWord word k.type) := htext ▸
    (reads_exactly _).bind ((reads_upTo rfl hblank).bind (.given (withoutEnd?_append _ _)
      ((reads_upTo rfl h.type).bind ((reads_exactly _).last (.pure _)))))
  rwa [hkey] at hread

/-- An interface with its keys. -/
def interfaceReader : Reader (String × List InterfaceKey) := do
  exactly "export interface "
  let name ← upTo ' '
  exactly "\x7b\n"
  let keys ← keyReader.repeatedly
  exactly "\x7d\n"
  pure (name, keys)

/-- The written form of an interface. -/
def interfaceText (name : String) (keys : List InterfaceKey) : String :=
  "export interface " ++ (name ++ " " ++ ("\x7b\n" ++
    (String.join (keys.map InterfaceKey.text) ++ "\x7d\n")))

theorem reads_interface {name : String} (hname : ' ' ∉ name.toList) {keys : List InterfaceKey}
    (hkeys : ∀ k ∈ keys, k.IsLegible) :
    Reads interfaceReader (interfaceText name keys) (name, keys) :=
  (reads_exactly _).bind ((reads_upTo rfl hname).bind ((reads_exactly _).bind
    (.repeatedly (fun k hk => (hkeys k hk).reads) (refuses_start (by decide))
      ((reads_exactly _).last (.pure _)))))

/-- The two interfaces at the start of the types, behind a comment. -/
def typesReader : Reader (List (String × List InterfaceKey)) := do
  let _ ← upTo '\n'
  exactly "\n"
  let stored ← interfaceReader
  exactly "\n"
  let values ← interfaceReader
  pure [stored, values]

/-- The interfaces of a file of types. -/
def interfacesOf (text : String) : Option (List (String × List InterfaceKey)) :=
  (typesReader text.toList).map Prod.fst

/-- The keys of the interface for an entity, some of which every entity has. -/
def storedKeys (keys : List InterfaceKey) : List InterfaceKey :=
  ⟨"id", false, "number"⟩ :: keys ++
    [⟨"createdAt", false, "Date"⟩, ⟨"updatedAt", true, "Date"⟩]

/-- What a file of types starts with. -/
def FormTypes.head (t : FormTypes) : String :=
  "// Generated by formgen on " ++ t.stamp ++ "\n" ++ ("\n" ++
    (interfaceText t.entity (storedKeys t.stored) ++ ("\n" ++
      interfaceText (t.entity ++ "FormValues") t.values)))

theorem FormTypes.text_head (t : FormTypes) : t.text =
    t.head ++ (String.join (t.choices.map (ChoiceType.text t.entity)) ++ "\n") := by
  have hopen : "\n\nexport interface " = "\n" ++ ("\n" ++ "export interface ") := by decide
  have hid : " \x7b\n  id: number;\n" =
      " " ++ ("\x7b\n" ++ (InterfaceKey.mk "id" false "number").text) := by
    decide
  have hcommon : "  createdAt: Date;\n  updatedAt?: Date;\n\x7d\n\nexport interface " =
      (InterfaceKey.mk "createdAt" false "Date").text ++
        ((InterfaceKey.mk "updatedAt" true "Date").text ++ ("\x7d\n" ++ ("\n" ++
          "export interface "))) := by
    decide
  have hvalues : "FormValues \x7b\n" = "FormValues" ++ (" " ++ "\x7b\n") := by decide
  unfold FormTypes.text FormTypes.head interfaceText storedKeys
  rw [hopen, hid, hcommon, hvalues]
  simp only [List.cons_append, List.map_cons, List.map_append, List.map_nil, String.join_cons,
    String.join_append, String.join_nil, String.append_assoc, String.append_empty]

/-- A file of types is read as its interfaces. -/
theorem interfacesOf_text {t : FormTypes} (hstamp : '\n' ∉ t.stamp.toList)
    (hentity : ' ' ∉ t.entity.toList) (hstored : ∀ k ∈ t.stored, k.IsLegible)
    (hvalues : ∀ k ∈ t.values, k.IsLegible) :
    interfacesOf t.text =
      some [(t.entity, storedKeys t.stored), (t.entity ++ "FormValues", t.values)] := by
  have hcomment : '\n' ∉ ("// Generated by formgen on " ++ t.stamp).toList :=
    not_mem_append (by decide) hstamp
  have hname : ' ' ∉ (t.entity ++ "FormValues").toList :=
    not_mem_append hentity (by decide)
  have hcommon : ∀ k ∈ storedKeys t.stored, k.IsLegible := by
    simp only [storedKeys, List.cons_append, List.forall_mem_cons, List.forall_mem_append]
    exact ⟨⟨by decide, by decide, by decide⟩, hstored, ⟨by decide, by decide, by decide⟩,
      ⟨by decide, by decide, by decide⟩, nofun⟩
  have hread : Reads typesReader t.head [(t.entity, storedKeys t.stored), _] :=
    (reads_upTo rfl hcomment).bind ((reads_exactly _).bind ((reads_interface hentity hcommon).bind
      ((reads_exactly _).bind ((reads_interface hname hvalues).last (.pure _)))))
  unfold interfacesOf
  rw [t.text_head, String.toList_append, hread, Option.map_some]

/-! ## Checks of a text -/

section Parts

variable {α β : Type} {part : Reader α} {f : Option α → Reader β} {o : Option α}
  {write : α → String} {before after t : String} {b : β}

/-- A part that may be missing, in front of what is refused in its place. -/
theorem reads_wrapped (hpart : ∀ a, o = some a → Reads part (before ++ write a ++ after) a)
    (hmissing : Refuses part t) (hf : Reads (f o) t b) :
    Reads (optionally part >>= f) (wrapped before (o.map write) after ++ t) b := by
  cases o with
  | none => exact (String.empty_append (s := t)).symm ▸ .optionally_none hmissing hf
  | some a => exact .optionally_some (hpart a rfl) hf

/-- What is refused before a part that may be missing, and before what follows it. -/
theorem refuses_wrapped {o : Option String} (hbefore : Refuses part before) (ht : Refuses part t) :
    Refuses part (wrapped before o after ++ t) := by
  cases o with
  | none => exact (String.empty_append (s := t)).symm ▸ ht
  | some s => exact ((hbefore.append s).append after).append t

end Parts

/-- The text that a JSON text stands for. -/
def jsonReader : Reader String := do
  exactly "\""
  fun cs => (Json.readString cs).toOption

theorem reads_json (s : String) : Reads jsonReader (Json.Value.string s).text s := by
  intro rest
  have htext : (Json.Value.string s).text.toList ++ rest =
      "\"".toList ++ (s.toList.flatMap Json.escapeChar ++ '"' :: rest) := by
    have hchars : (Json.Value.string s).text.toList = Json.quoted s := String.toList_ofList
    rw [hchars, Json.quoted, List.cons_append, List.append_assoc]
    rfl
  unfold jsonReader
  rw [htext, bind_apply, reads_exactly, Option.bind_some]
  simp only [Json.readString_quoted]
  rfl

/-- The label in a message that ends as given, up to the quote behind the message. -/
def labelReader (ending : String) : Reader String := do
  let message ← upTo '"'
  given (withoutEnd? ending message)

theorem reads_label {label ending : String} (hlabel : '"' ∉ label.toList)
    (hending : '"' ∉ ending.toList) :
    Reads (labelReader ending) (label ++ ending ++ "\"") label := by
  have hmessage : '"' ∉ (label ++ ending).toList :=
    not_mem_append hlabel hending
  exact (reads_upTo rfl hmessage).last (reads_given (withoutEnd?_append label ending))

/-- The check of a format. -/
def formatReader : Reader (Format × String) := do
  let email ← optionally do
    exactly ".email(\""
    labelReader " must be a valid email address"
  match email with
  | some label =>
      exactly ")"
      pure (.email, label)
  | none =>
      exactly ".url(\""
      let label ← labelReader " must be a valid URL"
      exactly ")"
      pure (.url, label)

/-- The check of the least length, with the label in its message if it has one. -/
def leastReader : Reader (Nat × Option String) := do
  exactly ".min("
  let n ← digits
  let label ← optionally do
    exactly ", \""
    labelReader " is required"
  exactly ")"
  pure (n, label)

/-- A bound in brackets, with what stands before it. -/
def boundReader (before : String) : Reader Nat := do
  exactly before
  let n ← digits
  exactly ")"
  pure n

/-- The check of a pattern. -/
def patternReader : Reader String := do
  exactly ".regex(new RegExp("
  let s ← jsonReader
  exactly "))"
  pure s

/-- The checks that have parts as they are read. -/
def TextChecks.ofParts (format : Option (Format × String)) (least : Option (Nat × Option String))
    (most : Option Nat) (pattern : Option String) : TextChecks :=
  { label := ((format.map Prod.snd).or (least.bind Prod.snd)).getD ""
    format := format.map Prod.fst
    isRequired := (least.bind Prod.snd).isSome
    least := least.map Prod.fst
    most := most
    pattern := pattern }

/-- The checks of a text. -/
def checksReader : Reader TextChecks := do
  let format ← optionally formatReader
  let least ← optionally leastReader
  let most ← optionally (boundReader ".max(")
  let pattern ← optionally patternReader
  pure (.ofParts format least most pattern)

theorem reads_format {label : String} (hlabel : '"' ∉ label.toList) (format : Format) :
    Reads formatReader (format.text label) (format, label) := by
  cases format with
  | email =>
      have htext : Format.email.text label =
          ".email(\"" ++ (label ++ " must be a valid email address" ++ "\"") ++ ")" := by
        have hend : " must be a valid email address\")" =
            " must be a valid email address" ++ ("\"" ++ ")") := by decide
        unfold Format.text
        rw [hend]
        simp only [String.append_assoc]
      rw [htext]
      exact .optionally_some ((reads_exactly _).bind (reads_label hlabel (by decide)))
        ((reads_exactly ")").last (.pure _))
  | url =>
      have htext : Format.url.text label =
          ".url(\"" ++ (label ++ " must be a valid URL" ++ "\"" ++ ")") := by
        have hend : " must be a valid URL\")" = " must be a valid URL" ++ ("\"" ++ ")") := by decide
        unfold Format.text
        rw [hend]
        simp only [String.append_assoc]
      rw [htext]
      exact .optionally_none ((refuses_start (by decide)).append _)
        ((reads_exactly _).bind ((reads_label hlabel (by decide)).bind
          ((reads_exactly ")").last (.pure _))))

theorem reads_least {label : String} {isRequired : Bool}
    (hlabel : isRequired = true → '"' ∉ label.toList) (n : Nat) :
    Reads leastReader (".min(" ++ toString n ++
      if isRequired then ", \"" ++ label ++ " is required\")" else ")")
      (n, if isRequired then some label else none) := by
  cases isRequired with
  | true =>
      have htext : ".min(" ++ toString n ++ (", \"" ++ label ++ " is required\")") =
          ".min(" ++ (toString n ++ (", \"" ++ ((label ++ " is required" ++ "\"") ++ ")"))) := by
        have hend : " is required\")" = " is required" ++ ("\"" ++ ")") := by decide
        rw [hend]
        simp only [String.append_assoc]
      rw [if_pos rfl, if_pos rfl, htext]
      refine (reads_exactly _).bind (.digits rfl ?_)
      rw [← String.append_assoc]
      exact .optionally_some ((reads_exactly _).bind (reads_label (hlabel rfl) (by decide)))
        ((reads_exactly ")").last (.pure _))
  | false =>
      rw [if_neg Bool.false_ne_true, if_neg Bool.false_ne_true, String.append_assoc,
        ← String.append_empty (s := ")")]
      exact (reads_exactly _).bind (.digits rfl
        (.optionally_none ((refuses_start (by decide)).append _)
          ((reads_exactly ")").bind (.pure _))))

theorem reads_bound (before : String) (n : Nat) :
    Reads (boundReader before) (before ++ toString n ++ ")") n := by
  rw [String.append_assoc, ← String.append_empty (s := ")")]
  exact (reads_exactly _).bind (.digits rfl ((reads_exactly ")").bind (.pure _)))

theorem reads_pattern (s : String) :
    Reads patternReader (".regex(new RegExp(" ++ (Json.Value.string s).text ++ "))") s := by
  rw [String.append_assoc]
  exact (reads_exactly _).bind ((reads_json s).bind ((reads_exactly "))").last (.pure _)))

/-- What may follow the checks of a member. -/
def closings : List String := [",\n", ".optional(),\n"]

/-- The checks as their written form tells them: a label is told by a message only. -/
def TextChecks.told (c : TextChecks) : TextChecks :=
  .ofParts (c.format.map fun format => (format, c.label))
    (c.least.map fun n => (n, if c.isRequired then some c.label else none)) c.most c.pattern

theorem refuses_format {t : String}
    (h : differs ".email(\"".toList t.toList = true ∧ differs ".url(\"".toList t.toList = true) :
    Refuses formatReader t :=
  .optionally_none (refuses_start h.1) (refuses_start h.2)

/-- A label that stands in a message has no quote. -/
def TextChecks.IsMessageLegible (c : TextChecks) : Prop :=
  c.format.isSome = true ∨ c.isRequired = true → '"' ∉ c.label.toList

/-- The checks of a text are told from their written form, in front of what may follow them. -/
theorem reads_checks {c : TextChecks} (hlabel : c.IsMessageLegible) {t : String}
    (ht : t ∈ closings) {β : Type} {f : TextChecks → Reader β} {b : β}
    (hf : Reads (f c.told) t b) : Reads (checksReader >>= f) (c.text ++ t) b := by
  have hmarks : ∀ t ∈ closings,
      (differs ".email(\"".toList t.toList = true ∧ differs ".url(\"".toList t.toList = true) ∧
      differs ".min(".toList t.toList = true ∧ differs ".max(".toList t.toList = true ∧
      differs ".regex(new RegExp(".toList t.toList = true := by
    decide
  obtain ⟨hformat, hleast, hmost, hpattern⟩ := hmarks t ht
  have hformats : (c.format.map (Format.text c.label)).getD "" =
      wrapped "" ((c.format.map fun format => (format, c.label)).map fun p => p.1.text p.2) "" := by
    cases c.format with
    | none => rfl
    | some format => simp [wrapped]
  have hleasts : c.least.map toString =
      (c.least.map fun n => (n, if c.isRequired then some c.label else none)).map
        fun p => toString p.1 := by
    rw [Option.map_map]
    rfl
  unfold TextChecks.text checksReader
  rw [hformats, hleasts]
  simp only [bind_assoc, pure_bind, String.append_assoc]
  -- each check is refused in the place of an earlier one, and so is what follows them all
  refine reads_wrapped (fun p hp => ?_) ?_
    (reads_wrapped (fun p hp => ?_) ?_ (reads_wrapped (fun n _ => reads_bound _ n) ?_
      (reads_wrapped (fun s _ => reads_pattern s) (refuses_start hpattern) hf)))
  · obtain ⟨format, hformat, rfl⟩ := Option.map_eq_some_iff.mp hp
    rw [String.empty_append, String.append_empty]
    exact reads_format (hlabel (.inl (Option.isSome_of_eq_some hformat))) format
  · exact refuses_wrapped (refuses_format (by decide)) (refuses_wrapped (refuses_format (by decide))
      (refuses_wrapped (refuses_format (by decide)) (refuses_format hformat)))
  · obtain ⟨n, -, rfl⟩ := Option.map_eq_some_iff.mp hp
    exact reads_least (fun hrequired => hlabel (.inr hrequired)) n
  · exact refuses_wrapped (refuses_start (by decide))
      (refuses_wrapped (refuses_start (by decide)) (refuses_start hleast))
  · exact refuses_wrapped (refuses_start (by decide)) (refuses_start hmost)

/-! ## Members of schemas -/

/-- What follows the value that a member takes. -/
def memberEndReader (name base : String) (checks : Option TextChecks) : Reader Member := do
  let mark ← optionally (exactly ".optional()")
  exactly ",\n"
  pure ⟨name, base, checks, mark.isSome⟩

/-- The line of a member.  Only texts are checked further. -/
def memberReader : Reader Member := do
  exactly "  "
  let written ← upTo ' '
  let name ← given (withoutEnd? ":" written)
  let opened ← upTo ')'
  if opened = "z.string(" then
    let checks ← checksReader
    memberEndReader name (opened ++ ")") (some checks)
  else memberEndReader name (opened ++ ")") none

/-- A member as its line tells it. -/
def Member.told (c : Member) : Member := { c with checks := c.checks.map TextChecks.told }

/-- What a member may take values with. -/
def bases : List String :=
  ["z.number()", "z.boolean()", "z.coerce.date()", "z.instanceof(File)", "z.string()"]

/-- A member is told by its line. -/
structure Member.IsLegible (c : Member) : Prop where
  name : ' ' ∉ c.name.toList
  base : c.base ∈ bases
  checked : c.checks.isSome = true ↔ c.base = "z.string()"
  labelled : ∀ checks, c.checks = some checks → checks.IsMessageLegible

theorem reads_memberEnd (name base : String) (checks : Option TextChecks) (isOptional : Bool) :
    Reads (memberEndReader name base checks) ((if isOptional then ".optional()" else "") ++ ",\n")
      ⟨name, base, checks, isOptional⟩ := by
  unfold memberEndReader
  refine .flag (refuses_exactly (by decide)) ((reads_exactly ",\n").last ?_)
  cases isOptional <;> exact .pure _

theorem Member.IsLegible.reads {c : Member} (h : c.IsLegible) :
    Reads memberReader c.text c.told := by
  have hname : ' ' ∉ (c.name ++ ":").toList :=
    not_mem_append h.name (by decide)
  have hbases : ∀ base ∈ bases, ∃ opened : String, base = opened ++ ")" ∧ ')' ∉ opened.toList ∧
      (opened = "z.string(" ↔ base = "z.string()") := by
    simp only [bases, List.forall_mem_cons]
    exact ⟨⟨"z.number(", by decide⟩, ⟨"z.boolean(", by decide⟩, ⟨"z.coerce.date(", by decide⟩,
      ⟨"z.instanceof(File", by decide⟩, ⟨"z.string(", by decide⟩, nofun⟩
  obtain ⟨opened, hbase, hbracket, hstring⟩ := hbases c.base h.base
  have hchecked := h.checked
  have hlabelled := h.labelled
  obtain ⟨name, base, checks, isOptional⟩ := c
  simp only at hname hbase hstring hchecked hlabelled
  have htext : (Member.mk name base checks isOptional).text =
      "  " ++ (name ++ ":" ++ " " ++ (opened ++ ")" ++ (((checks.map TextChecks.text).getD "") ++
        ((if isOptional then ".optional()" else "") ++ ",\n")))) := by
    have hcolon : ": " = ":" ++ " " := by decide
    unfold Member.text
    rw [hbase, hcolon]
    simp only [String.append_assoc]
  rw [htext]
  refine (reads_exactly _).bind ((reads_upTo rfl hname).bind (.given (withoutEnd?_append _ _)
    ((reads_upTo rfl hbracket).bind ?_)))
  cases checks with
  | none =>
      have hother : ¬ opened = "z.string(" := fun heq => by
        have hsome := hchecked.mpr (hstring.mp heq)
        cases hsome
      rw [if_neg hother, ← hbase]
      exact (String.empty_append (s := _)).symm ▸ reads_memberEnd name base none isOptional
  | some checks =>
      have hclosing : (if isOptional then ".optional()" else "") ++ ",\n" ∈ closings := by
        cases isOptional <;> decide
      rw [if_pos (hstring.mpr (hchecked.mp rfl)), ← hbase]
      exact reads_checks (hlabelled checks rfl) hclosing (reads_memberEnd name base _ isOptional)

/-- The object of a file of a schema, behind a comment and an import. -/
def schemaReader : Reader (String × List Member) := do
  let _ ← upTo '\n'
  exactly "import \x7b z \x7d from \"zod\";\n\nexport const "
  let name ← upTo ' '
  exactly "= z.object(\x7b\n"
  let members ← memberReader.repeatedly
  exactly "\x7d);\n"
  pure (name, members)

/-- The object of a file of a schema. -/
def schemaOf (text : String) : Option (String × List Member) :=
  (schemaReader text.toList).map Prod.fst

/-- What a file of a schema starts with. -/
def Schema.head (s : Schema) : String :=
  "// Generated by formgen on " ++ s.stamp ++ "\n" ++
    ("import \x7b z \x7d from \"zod\";\n\nexport const " ++ (s.entityCamel ++ "Schema" ++ " " ++
      ("= z.object(\x7b\n" ++ (String.join (s.members.map Member.text) ++ "\x7d);\n"))))

theorem Schema.text_head (s : Schema) : s.text = s.head ++ ("\nexport type " ++ s.entity ++
    "Input = z.infer<typeof " ++ s.entityCamel ++ "Schema>;\n") := by
  have himport : "\nimport \x7b z \x7d from \"zod\";\n\nexport const " =
      "\n" ++ "import \x7b z \x7d from \"zod\";\n\nexport const " := by decide
  have hopen : "Schema = z.object(\x7b\n" = "Schema" ++ (" " ++ "= z.object(\x7b\n") := by decide
  have hclose : "\x7d);\n\nexport type " = "\x7d);\n" ++ "\nexport type " := by decide
  unfold Schema.text Schema.head
  rw [himport, hopen, hclose]
  simp only [String.append_assoc]

/-- A file of a schema is read as its object. -/
theorem schemaOf_text {s : Schema} (hstamp : '\n' ∉ s.stamp.toList)
    (hentity : ' ' ∉ s.entityCamel.toList) (hmembers : ∀ c ∈ s.members, c.IsLegible) :
    schemaOf s.text = some (s.entityCamel ++ "Schema", s.members.map Member.told) := by
  have hcomment : '\n' ∉ ("// Generated by formgen on " ++ s.stamp).toList :=
    not_mem_append (by decide) hstamp
  have hname : ' ' ∉ (s.entityCamel ++ "Schema").toList :=
    not_mem_append hentity (by decide)
  have hread : Reads schemaReader s.head (s.entityCamel ++ "Schema", s.members.map Member.told) :=
    (reads_upTo rfl hcomment).bind ((reads_exactly _).bind ((reads_upTo rfl hname).bind
      ((reads_exactly _).bind (.repeatedly_map (fun c hc => (hmembers c hc).reads)
        (refuses_start (by decide)) ((reads_exactly _).last (.pure _))))))
  unfold schemaOf
  rw [s.text_head, String.toList_append, hread, Option.map_some]

end FormScaffold.Rules
