import FormScaffold.Form.Definition
import FormScaffold.Proofs.Job.StoredParts

/-!
# Stored forms

A form is read back from its data, in whatever order the members of its objects are, if no field
has null as its default.  A null default is read as no default, so every form that was read is
read back.
-/

namespace FormScaffold

open Json Record Record.Fields

theorem FieldChoice.readsAs_toJson (c : FieldChoice) : ReadsAs decode c.toJson c :=
  ((writes_required (.text c.value)).map mk
    |>.seq (writes_defaulted (.optionalText c.label))).readsAs (by decide)

namespace FormField

/-- The lengths of the field are numbers of 32 bits, and its default is in order. -/
structure Fits (f : FormField) : Prop where
  maxLength : ∀ n, f.maxLength = some n → n < 2 ^ 32
  minLength : ∀ n, f.minLength = some n → n < 2 ^ 32
  defaultValue : ∀ v, f.defaultValue = some v → v.normalized = v

/-- A field is read back from its data. -/
theorem readsAs_toJson {f : FormField} (h : f.Fits) (hdefault : f.defaultValue ≠ some .null) :
    ReadsAs decode f.toJson f := by
  have hword : ∀ o : Option Nat, (∀ n, o = some n → n < 2 ^ 32) →
      ReadsAs (optionOf word32) (.ofOption .ofNat o) o :=
    fun o ho => .ofOption fun n hn => ⟨.of_normalized (naturalBelow_ofNat (ho n hn)) rfl, rfl⟩
  have hvalue : ReadsAs (optionOf value) (.ofOption id f.defaultValue) f.defaultValue := by
    refine .ofOption fun v hv => ?_
    have hnormal := h.defaultValue v hv
    refine ⟨.of_normalized (congrArg Except.ok hnormal) hnormal, ?_⟩
    cases v with
    | null => exact absurd hv hdefault
    | _ => rfl
  exact ((writes_required (.text f.name)).map mk
    |>.seq (writes_required (.text f.fieldType))
    |>.seq (writes_defaulted (.bool f.required))
    |>.seq (writes_defaulted (.optionalText f.label))
    |>.seq (writes_defaulted (.optionalText f.placeholder))
    |>.seq (writes_defaulted hvalue)
    |>.seq (writes_defaulted (hword _ h.maxLength))
    |>.seq (writes_defaulted (hword _ h.minLength))
    |>.seq (writes_defaulted (.optionalText f.pattern))
    |>.seq (writes_defaulted (.list fun c _ => c.readsAs_toJson))).readsAs (by decide)

/-- A field that was read fits, and its default is not null. -/
theorem fits_of_decode {v : Value} {f : FormField} (h : decode v = .ok f) :
    f.Fits ∧ f.defaultValue ≠ some .null := by
  obtain ⟨taken, -, h₁⟩ := decode_eq_ok h
  obtain ⟨_, choices, h₂, -, rfl⟩ := seq_eq_ok h₁
  obtain ⟨_, pattern, h₃, -, rfl⟩ := seq_eq_ok h₂
  obtain ⟨_, minLength, h₄, hmin, rfl⟩ := seq_eq_ok h₃
  obtain ⟨_, maxLength, h₅, hmax, rfl⟩ := seq_eq_ok h₄
  obtain ⟨_, defaultValue, h₆, hdefault, rfl⟩ := seq_eq_ok h₅
  -- The other fields are of no account.
  obtain ⟨_, placeholder, h₇, -, rfl⟩ := seq_eq_ok h₆
  obtain ⟨_, label, h₈, -, rfl⟩ := seq_eq_ok h₇
  obtain ⟨_, required, h₉, -, rfl⟩ := seq_eq_ok h₈
  obtain ⟨_, fieldType, h₁₀, -, rfl⟩ := seq_eq_ok h₉
  obtain ⟨name, -, rfl⟩ := map_eq_ok h₁₀
  refine ⟨⟨fun n hn => ?_, fun n hn => ?_, fun u hu => ?_⟩, fun hnull => ?_⟩
  · obtain ⟨w, -, hread⟩ := defaultedOption_eq_ok hmax n hn
    exact naturalBelow_eq_ok hread
  · obtain ⟨w, -, hread⟩ := defaultedOption_eq_ok hmin n hn
    exact naturalBelow_eq_ok hread
  · obtain ⟨w, -, hread⟩ := defaultedOption_eq_ok hdefault u hu
    cases hread
    exact Value.normalized_normalized w
  · obtain ⟨w, hgiven, hread⟩ := defaultedOption_eq_ok hdefault .null hnull
    -- Only null is null in order, and null counts as absent.
    have hnone : Source.isNone w.normalized = false := by
      rw [ReadsAs.isNone_normalized, hgiven]
    have hnormal : w.normalized = .null := Except.ok.inj hread
    rw [hnormal] at hnone
    cases hnone

end FormField

namespace FormDefinition

/-- Every field of the form fits. -/
def Fits (d : FormDefinition) : Prop := ∀ f ∈ d.fields, f.Fits

/-- A form is read back from its data. -/
theorem readsAs_toJson {d : FormDefinition} (h : d.Fits)
    (hdefault : ∀ f ∈ d.fields, f.defaultValue ≠ some .null) : ReadsAs decode d.toJson d :=
  ((writes_defaulted (.optionalText d.name)).map mk
    |>.seq (writes_defaulted (.optionalText d.description))
    |>.seq (writes_required (.list fun f hf =>
      FormField.readsAs_toJson (h f hf) (hdefault f hf)))).readsAs (by decide)

/-- The fields of a form that was read fit, and their defaults are not null. -/
theorem fits_of_decode {v : Value} {d : FormDefinition} (h : decode v = .ok d) :
    d.Fits ∧ ∀ f ∈ d.fields, f.defaultValue ≠ some .null := by
  obtain ⟨taken, -, h₁⟩ := decode_eq_ok h
  obtain ⟨_, fields, h₂, hfields, rfl⟩ := seq_eq_ok h₁
  obtain ⟨_, description, h₃, -, rfl⟩ := seq_eq_ok h₂
  obtain ⟨name, -, rfl⟩ := map_eq_ok h₃
  obtain ⟨items, -, hread⟩ := required_eq_ok hfields
  have heach := forall_of_listOf (fun _ _ => FormField.fits_of_decode) hread
  exact ⟨fun f hf => (heach f hf).1, fun f hf => (heach f hf).2⟩

end FormDefinition

/-! ## Forms and options -/

/-- A form is read back from its data exactly if no default is null, options always are, and forms
and options that were read from any data are read back from their own. -/
theorem forms_and_options_restored :
    (∀ d : FormDefinition, d.Fits →
      (ReadsAs FormDefinition.decode d.toJson d ↔
        ∀ f ∈ d.fields, f.defaultValue ≠ some .null)) ∧
    (∀ o : GenerationOptions, o.MapsOrdered → ReadsAs GenerationOptions.decode o.toJson o) ∧
    (∀ (v : Value) (d : FormDefinition), FormDefinition.decode v = .ok d →
      ReadsAs FormDefinition.decode d.toJson d) ∧
    (∀ (v : Value) (o : GenerationOptions), GenerationOptions.decode v = .ok o →
      ReadsAs GenerationOptions.decode o.toJson o) := by
  refine ⟨fun d hfits => ⟨fun hread => ?_, FormDefinition.readsAs_toJson hfits⟩,
    fun o => GenerationOptions.readsAs_toJson, fun v d hread => ?_, fun v o hread => ?_⟩
  · exact (FormDefinition.fits_of_decode hread.given).2
  · obtain ⟨hfits, hdefault⟩ := FormDefinition.fits_of_decode hread
    exact FormDefinition.readsAs_toJson hfits hdefault
  · exact GenerationOptions.readsAs_toJson (GenerationOptions.mapsOrdered_of_decode hread)

/-- Data of a form with an unknown member, a field and a choice given as lists, and a default under
its other name whose own members are doubled and not in order. -/
def looseForm : Value :=
  .object
    [("colour", .null),
     ("fields", .array
       [.array [.string "note", .string "text"],
        .object
          [("type", .string "select"), ("maxLength", .ofNat 40), ("label", .null),
           ("default", .object [("y", .ofNat 1), ("x", .null), ("y", .bool true)]),
           ("options", .array [.object [("value", .string "a")], .array [.string "b"]]),
           ("name", .string "kind")]])]

/-- The form that `looseForm` stands for. -/
def looseFormRead : FormDefinition where
  name := none
  description := none
  fields :=
    [⟨"note", "text", false, none, none, none, none, none, none, []⟩,
     ⟨"kind", "select", false, none, none, some (.object [("x", .null), ("y", .bool true)]),
       some 40, none, none, [⟨"a", none⟩, ⟨"b", none⟩]⟩]

/-- Data of options with a doubled import and a database given as an object. -/
def looseOptions : Value :=
  .object
    [("target_database", .object [("my_sql", .null)]), ("retries", .ofNat 3),
     ("additional_imports", .object
       [("zod", .string "3"), ("axios", .string "1"), ("zod", .string "4")])]

/-- The options that `looseOptions` stands for. -/
def looseOptionsRead : GenerationOptions :=
  { GenerationOptions.standard with
    targetDatabase := .mySql, additionalImports := [("axios", "1"), ("zod", "4")] }

theorem looseForm_restored :
    (FormDefinition.decode looseForm = .ok looseFormRead ∧
      ReadsAs FormDefinition.decode looseFormRead.toJson looseFormRead) ∧
    (looseFormRead.Fits ∧ ∀ f ∈ looseFormRead.fields, f.defaultValue ≠ some .null) ∧
    (GenerationOptions.decode looseOptions = .ok looseOptionsRead ∧
      ReadsAs GenerationOptions.decode looseOptionsRead.toJson looseOptionsRead) ∧
    (GenerationOptions.standard.MapsOrdered ∧
      ReadsAs GenerationOptions.decode GenerationOptions.standard.toJson .standard) := by
  obtain ⟨hforms, hoptions, hreadForm, hreadOptions⟩ := forms_and_options_restored
  have hform : FormDefinition.decode looseForm = .ok looseFormRead := rfl
  have hrestored := hreadForm _ _ hform
  have hfits := (FormDefinition.fits_of_decode hform).1
  have hread : GenerationOptions.decode looseOptions = .ok looseOptionsRead := rfl
  have hordered : GenerationOptions.standard.MapsOrdered := by decide
  exact ⟨⟨hform, hrestored⟩, ⟨hfits, (hforms _ hfits).mp hrestored⟩,
    ⟨hread, hreadOptions _ _ hread⟩, hordered, hoptions _ hordered⟩

end FormScaffold
