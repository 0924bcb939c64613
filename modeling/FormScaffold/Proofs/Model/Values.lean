import FormScaffold.Model.Basic
import FormScaffold.Proofs.Json.Normalized
import FormScaffold.Proofs.Template.Shapes
import FormScaffold.Template.Engine

/-!
# What templates see of a model

The values that a template is given for a model: an object with a member for each of the model's
data, in which a field is an object in turn.  Date constants add members and change none.  The
object has one shape for all models, and its members can be read off the model.
-/

namespace FormScaffold

open Json Template

namespace Keyed

variable {α : Type}

/-- A map that inherits has its own values, and those of the others for the keys it lacks. -/
theorem get?_inherit (others m : Keyed α) (key : String) :
    get? key (inherit others m) = (get? key m).or (others.lookup key) := by
  unfold inherit
  induction others generalizing m with
  | nil => simp
  | cons p rest ih =>
      obtain ⟨k, v⟩ := p
      rw [List.foldl_cons, ih, List.lookup_cons]
      by_cases hkey : key = k
      · subst hkey
        cases hget : get? key m with
        | none => simp [contains, hget, get?_insert]
        | some u => simp [contains, hget]
      · have hne : (key == k) = false := by simpa using hkey
        split <;> simp [get?_insert, hkey, hne]

end Keyed

/-! ## Shapes -/

/-- What is known of an option of a field. -/
def choiceMembers : List (PlainName × Shape) :=
  [(⟨"value", by decide⟩, .text), (⟨"label", by decide⟩, .maybe .text)]

/-- What is known of a field. -/
def fieldMembers : List (PlainName × Shape) :=
  [(⟨"name", by decide⟩, .text), (⟨"field_type", by decide⟩, .text),
   (⟨"required", by decide⟩, .flag), (⟨"label", by decide⟩, .text),
   (⟨"placeholder", by decide⟩, .maybe .text),
   (⟨"default_value", by decide⟩, .any),
   (⟨"max_length", by decide⟩, .maybe .number),
   (⟨"min_length", by decide⟩, .maybe .number),
   (⟨"pattern", by decide⟩, .maybe .text),
   (⟨"options", by decide⟩, .list (.ofMembers choiceMembers)),
   (⟨"pascal_name", by decide⟩, .text), (⟨"camel_name", by decide⟩, .text),
   (⟨"snake_name", by decide⟩, .text), (⟨"object_type", by decide⟩, .text),
   (⟨"column_type", by decide⟩, .text), (⟨"frontend_type", by decide⟩, .text)]

/-- What is known of a model. -/
def modelMembers : List (PlainName × Shape) :=
  [(⟨"entity_name", by decide⟩, .text), (⟨"entity_name_plural", by decide⟩, .text),
   (⟨"entity_name_camel", by decide⟩, .text),
   (⟨"entity_name_camel_plural", by decide⟩, .text),
   (⟨"entity_name_snake", by decide⟩, .text), (⟨"table_name", by decide⟩, .text),
   (⟨"project_name", by decide⟩, .text), (⟨"namespace", by decide⟩, .text),
   (⟨"author", by decide⟩, .maybe .text), (⟨"description", by decide⟩, .maybe .text),
   (⟨"form_name", by decide⟩, .maybe .text), (⟨"database", by decide⟩, .text),
   (⟨"generated_at", by decide⟩, .text),
   (⟨"fields", by decide⟩, .list (.ofMembers fieldMembers)),
   (⟨"required_fields", by decide⟩, .list .text),
   (⟨"additional_imports", by decide⟩, .table .text),
   (⟨"custom_settings", by decide⟩, .table .text)]

/-- The shape of every model. -/
def modelShape : Shape := .ofMembers modelMembers

/-! ## Values -/

theorem holds_ofOption {α : Type} {f : α → Value} {t : Shape}
    (hf : ∀ a, (f a).normalized = f a ∧ t.Holds (f a)) (o : Option α) :
    (Shape.maybe t).Holds (Value.ofOption f o).normalized := by
  cases o with
  | none => exact Or.inl rfl
  | some a => exact Or.inr ((hf a).1.symm ▸ (hf a).2)

theorem holds_optionalText (o : Option String) :
    (Shape.maybe .text).Holds (Value.ofOption .string o).normalized :=
  holds_ofOption (t := .text) (f := Value.string) (fun a => ⟨rfl, a, rfl⟩) o

theorem holds_optionalNumber (o : Option Nat) :
    (Shape.maybe .number).Holds (Value.ofOption .ofNat o).normalized :=
  holds_ofOption (t := .number) (f := Value.ofNat) (fun n => ⟨rfl, .int n, rfl⟩) o

/-- A normalized object whose members have different names and are of known shapes. -/
theorem holds_normalized {members : List (PlainName × Shape)} {ms : List (String × Value)}
    (hkeys : (ms.map Prod.fst).Nodup)
    (h : ∀ m ∈ members, ∃ v, ms.lookup m.1.text = some v ∧ m.2.Holds v.normalized) :
    (Shape.ofMembers members).Holds (Value.object ms).normalized := by
  refine Shape.holds_ofMembers fun m hm => ?_
  obtain ⟨v, hv, hholds⟩ := h m hm
  exact ⟨v.normalized, Value.get?_normalizedMembers hkeys hv, hholds⟩

theorem holds_toJson_choice (c : FieldChoice) :
    (Shape.ofMembers choiceMembers).Holds c.toJson.normalized := by
  refine holds_normalized (by simp) fun m hm => ?_
  simp only [choiceMembers, List.mem_cons, List.not_mem_nil, or_false] at hm
  rcases hm with rfl | rfl
  · exact ⟨_, rfl, _, rfl⟩
  · exact ⟨_, rfl, holds_optionalText c.label⟩

theorem holds_toJson_field (f : FieldModel) :
    (Shape.ofMembers fieldMembers).Holds f.toJson.normalized := by
  have hchoices : (Shape.list (.ofMembers choiceMembers)).Holds
      (Value.array (f.choices.map FieldChoice.toJson)).normalized := by
    refine ⟨_, rfl, fun v hv => ?_⟩
    rw [Value.normalizedItems_eq_map, List.map_map] at hv
    obtain ⟨c, _, rfl⟩ := List.mem_map.mp hv
    exact holds_toJson_choice c
  refine holds_normalized (by simp [TypeMapping.members]) fun m hm => ?_
  simp only [fieldMembers, List.mem_cons, List.not_mem_nil, or_false] at hm
  rcases hm with rfl | rfl | rfl | rfl | rfl | rfl | rfl | rfl | rfl | rfl | rfl | rfl | rfl | rfl |
    rfl | rfl
  · exact ⟨_, rfl, _, rfl⟩
  · exact ⟨_, rfl, _, rfl⟩
  · exact ⟨_, rfl, _, rfl⟩
  · exact ⟨_, rfl, _, rfl⟩
  · exact ⟨_, rfl, holds_optionalText f.placeholder⟩
  · exact ⟨_, rfl, trivial⟩
  · exact ⟨_, rfl, holds_optionalNumber f.maxLength⟩
  · exact ⟨_, rfl, holds_optionalNumber f.minLength⟩
  · exact ⟨_, rfl, holds_optionalText f.pattern⟩
  · exact ⟨_, rfl, hchoices⟩
  · exact ⟨_, rfl, _, rfl⟩
  · exact ⟨_, rfl, _, rfl⟩
  · exact ⟨_, rfl, _, rfl⟩
  · exact ⟨_, rfl, _, rfl⟩
  · exact ⟨_, rfl, _, rfl⟩
  · exact ⟨_, rfl, _, rfl⟩

namespace Model

/-- The members of a model, as its data has them. -/
def members (m : Model) : List (String × Value) :=
  match m.toJson with
  | .object ms => ms
  | _ => []

/-- What a template sees of a model at an instant. -/
def given (now : Calendar.Instant) (m : Model) : Keyed Value :=
  Engine.withDateConstants now (Keyed.ofPairs (Value.normalizedMembers m.members))

theorem normalized_toJson (m : Model) :
    m.toJson.normalized = .object (Keyed.ofPairs (Value.normalizedMembers m.members)) := by
  have hobject : m.toJson = .object m.members := rfl
  rw [hobject, Value.normalized]

theorem keys_nodup (m : Model) : (m.members.map Prod.fst).Nodup := by
  simp [members, toJson]

/-- A member of a model is seen by templates. -/
theorem get?_given {m : Model} {key : String} {v : Value} (h : m.members.lookup key = some v)
    (now : Calendar.Instant) : Keyed.get? key (m.given now) = some v.normalized := by
  rw [given, Engine.withDateConstants, Keyed.get?_inherit,
    Value.get?_normalizedMembers m.keys_nodup h, Option.some_or]

/-- What is known of every model is seen alike at two instants. -/
theorem get?_given_of_mem (m : Model) {n : PlainName × Shape} (hn : n ∈ modelMembers)
    (now later : Calendar.Instant) :
    Keyed.get? n.1.text (m.given now) = Keyed.get? n.1.text (m.given later) := by
  have hnames : ∀ k ∈ modelMembers.map fun k => k.1.text, k ∈ m.members.map Prod.fst := by
    simp [modelMembers, members, toJson]
  obtain ⟨member, hmember, hkey⟩ := List.mem_map.mp (hnames _ (List.mem_map_of_mem hn))
  have hlookup : (m.members.lookup n.1.text).isSome = true := by
    rw [List.lookup_isSome_iff]
    exact ⟨member, hmember, by simp [hkey]⟩
  obtain ⟨v, hv⟩ := Option.isSome_iff_exists.mp hlookup
  rw [get?_given hv, get?_given hv]

theorem holds_given (m : Model) (now : Calendar.Instant) :
    modelShape.Holds (.object (m.given now)) := by
  have hfields : (Shape.list (.ofMembers fieldMembers)).Holds
      (Value.array (m.fields.map FieldModel.toJson)).normalized := by
    refine ⟨_, rfl, fun v hv => ?_⟩
    rw [Value.normalizedItems_eq_map, List.map_map] at hv
    obtain ⟨f, _, rfl⟩ := List.mem_map.mp hv
    exact holds_toJson_field f
  have hstrings : ∀ ss : List String, (Shape.list .text).Holds (Value.ofStrings ss).normalized := by
    refine fun ss => ⟨_, rfl, fun v hv => ?_⟩
    rw [Value.normalizedItems_eq_map, List.map_map] at hv
    obtain ⟨s, _, rfl⟩ := List.mem_map.mp hv
    exact ⟨s, rfl⟩
  have htables : ∀ t : Keyed String,
      (Shape.table .text).Holds (Value.ofStringMap t).normalized := by
    refine fun t => ⟨_, rfl, fun p hp => ?_⟩
    have hp := Keyed.mem_ofPairs hp
    rw [Value.normalizedMembers_eq_map, Keyed.mapValues, List.map_map] at hp
    obtain ⟨q, _, rfl⟩ := List.mem_map.mp hp
    exact ⟨q.2, rfl⟩
  have hmember : ∀ {n : PlainName} {t : Shape}, (∃ v, m.members.lookup n.text = some v ∧
      t.Holds v.normalized) → ∃ v, Keyed.get? n.text (m.given now) = some v ∧ t.Holds v := by
    rintro n t ⟨v, hv, hholds⟩
    exact ⟨_, get?_given hv now, hholds⟩
  refine Shape.holds_ofMembers fun n hn => hmember ?_
  simp only [modelMembers, List.mem_cons, List.not_mem_nil, or_false] at hn
  rcases hn with rfl | rfl | rfl | rfl | rfl | rfl | rfl | rfl | rfl | rfl | rfl | rfl | rfl | rfl |
    rfl | rfl | rfl
  · exact ⟨_, rfl, _, rfl⟩
  · exact ⟨_, rfl, _, rfl⟩
  · exact ⟨_, rfl, _, rfl⟩
  · exact ⟨_, rfl, _, rfl⟩
  · exact ⟨_, rfl, _, rfl⟩
  · exact ⟨_, rfl, _, rfl⟩
  · exact ⟨_, rfl, _, rfl⟩
  · exact ⟨_, rfl, _, rfl⟩
  · exact ⟨_, rfl, holds_optionalText m.author⟩
  · exact ⟨_, rfl, holds_optionalText m.description⟩
  · exact ⟨_, rfl, holds_optionalText m.formName⟩
  · exact ⟨_, rfl, _, rfl⟩
  · exact ⟨_, rfl, _, rfl⟩
  · exact ⟨_, rfl, hfields⟩
  · exact ⟨_, rfl, hstrings m.requiredFields⟩
  · exact ⟨_, rfl, htables m.additionalImports⟩
  · exact ⟨_, rfl, htables m.customSettings⟩

end Model

end FormScaffold
