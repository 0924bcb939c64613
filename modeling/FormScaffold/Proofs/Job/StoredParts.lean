import FormScaffold.Artifact.Basic
import FormScaffold.Options.Basic
import FormScaffold.Proofs.Calendar.Timestamps
import FormScaffold.Proofs.Json.ReadBack
import FormScaffold.Proofs.Record.Fields

/-!
# Stored options and artifacts

Options whose maps are in order are read back from their data, and options that were read have
maps in order.

The data of an artifact says what its content says.  It is read back if the time of the
artifact can be written and its size fits 64 bits, and only such artifacts are read.
-/

namespace FormScaffold.GenerationOptions

open Json Record Record.Fields

/-! ## Stored options -/

/-- The maps of the options are in order, as maps by key are. -/
def MapsOrdered (o : GenerationOptions) : Prop :=
  o.additionalImports.Ordered ∧ o.customSettings.Ordered

instance (o : GenerationOptions) : Decidable o.MapsOrdered :=
  inferInstanceAs (Decidable (o.additionalImports.Ordered ∧ o.customSettings.Ordered))

/-- Options are read back from their data. -/
theorem readsAs_toJson {o : GenerationOptions} (h : o.MapsOrdered) :
    ReadsAs decode o.toJson o := by
  have hmap : ∀ m : Keyed String, m.Ordered → ReadsAs textMap (Value.ofStringMap m) m := by
    intro m hm
    refine .of_normalized (textMap_ofStringMap hm) ?_
    rw [Value.normalized_ofStringMap, Keyed.ofPairs_of_ordered hm, Value.ofStringMap]
  have hdatabase : ReadsAs (choice Database.byTag) (.string o.targetDatabase.tag)
      o.targetDatabase := by
    refine .of_normalized (choice_string ?_) rfl
    cases o.targetDatabase <;> decide
  exact ((writes_defaulted (.bool o.objectModel)).map GenerationOptions.mk
    |>.seq (writes_defaulted (.bool o.relationalSchema))
    |>.seq (writes_defaulted (.bool o.uiComponents))
    |>.seq (writes_defaulted (.bool o.deployment))
    |>.seq (writes_defaulted (.text o.projectName))
    |>.seq (writes_defaulted (.optionalText o.projectNamespace))
    |>.seq (writes_defaulted (.optionalText o.author))
    |>.seq (writes_defaulted (.optionalText o.description))
    |>.seq (writes_defaulted hdatabase)
    |>.seq (writes_defaulted (hmap _ h.1))
    |>.seq (writes_defaulted (hmap _ h.2))).readsAs (by decide)

/-- A map of read options was read itself, or is the empty default. -/
theorem ordered_of_defaulted {σ : Type} [Source σ] {name : String} {data : String → Option σ}
    {m : Keyed String} (h : (defaulted name [] [] textMap).build data = .ok m) : m.Ordered := by
  rcases defaulted_eq_ok h with rfl | ⟨s, hread⟩
  · exact List.Pairwise.nil
  · exact textMap_eq_ok hread

theorem mapsOrdered_of_decode {σ : Type} [Source σ] {s : σ} {o : GenerationOptions}
    (h : decode s = .ok o) : o.MapsOrdered := by
  obtain ⟨taken, -, h₁⟩ := decode_eq_ok h
  obtain ⟨_, settings, h₂, hsettings, rfl⟩ := seq_eq_ok h₁
  obtain ⟨_, imports, h₃, himports, rfl⟩ := seq_eq_ok h₂
  -- The other nine fields are of no account.
  obtain ⟨_, database, h₄, -, rfl⟩ := seq_eq_ok h₃
  obtain ⟨_, description, h₅, -, rfl⟩ := seq_eq_ok h₄
  obtain ⟨_, author, h₆, -, rfl⟩ := seq_eq_ok h₅
  obtain ⟨_, projectNamespace, h₇, -, rfl⟩ := seq_eq_ok h₆
  obtain ⟨_, projectName, h₈, -, rfl⟩ := seq_eq_ok h₇
  obtain ⟨_, deployment, h₉, -, rfl⟩ := seq_eq_ok h₈
  obtain ⟨_, uiComponents, h₁₀, -, rfl⟩ := seq_eq_ok h₉
  obtain ⟨_, relationalSchema, h₁₁, -, rfl⟩ := seq_eq_ok h₁₀
  obtain ⟨objectModel, -, rfl⟩ := map_eq_ok h₁₁
  exact ⟨ordered_of_defaulted himports, ordered_of_defaulted hsettings⟩

theorem isPlain_toJson {depth : Nat} (hdepth : 2 < depth) (o : GenerationOptions) :
    o.toJson.isPlain depth = true := by
  have hgiven : ∀ s : Option String, (Value.ofOption .string s).isPlain (depth - 1) = true :=
    fun _ => Value.isPlain_ofOption fun _ _ => Value.isPlain_string _ _
  have hmap : ∀ m, (Value.ofStringMap m).isPlain (depth - 1) = true :=
    Value.isPlain_ofStringMap (by omega)
  refine Value.isPlain_object (by omega) ?_
  simp [hgiven, hmap]

end FormScaffold.GenerationOptions

namespace FormScaffold.Artifact

open Json Record Record.Fields

/-! ## Stored artifacts -/

/-- The artifact fits its stored form. -/
structure Storable (a : Artifact) : Prop where
  generatedAt : a.generatedAt.Representable
  size : a.size < 2 ^ 64

instance (a : Artifact) : Decidable a.Storable :=
  decidable_of_iff (a.generatedAt.Representable ∧ a.size < 2 ^ 64)
    ⟨fun ⟨generatedAt, size⟩ => ⟨generatedAt, size⟩, fun h => ⟨h.generatedAt, h.size⟩⟩

/-- What the stored form of an artifact says. -/
def stored (a : Artifact) : Stored :=
  ⟨a.kind, a.filePath, a.content, a.hash, a.size, a.generatedAt⟩

/-- An artifact is the one that its own stored form stands for, and no other one. -/
theorem ofStored_eq_ok {s : Stored} {a : Artifact} : ofStored s = .ok a ↔ s = a.stored := by
  constructor
  · intro h
    unfold ofStored at h
    split at h
    · cases h
    · rename_i made hcreate
      unfold create at hcreate
      split at hcreate
      · cases hcreate
        split at h
        · cases h
        · rename_i hhash
          split at h
          · cases h
          · rename_i hsize
            cases h
            simp only [bne_iff_ne, ne_eq, not_not] at hhash hsize
            unfold stored
            rw [hhash, hsize]
      · cases hcreate
  · rintro rfl
    unfold ofStored create stored
    simp only [a.path_given, dite_true, bne_self_eq_false, Bool.false_eq_true, if_false]

variable {σ : Type} [Source σ]

theorem refusal_eq_ok {α : Type} {r : Except Failure α} {a : α} :
    refusal r = .ok a ↔ r = .ok a := by
  cases r <;> simp [refusal]

/-- An artifact is read exactly from data that says what its stored form says. -/
theorem decode_eq_ok {s : σ} {a : Artifact} :
    decode s = .ok a ↔ storedFields.decode s = .ok a.stored := by
  unfold decode
  cases hfields : storedFields.decode s with
  | error e => simp
  | ok t =>
      simp only [refusal_eq_ok, ofStored_eq_ok, Except.ok.injEq]

theorem instant_zuluText {t : Calendar.Instant} (h : t.Representable) :
    instant (Value.string t.zuluText) = .ok t := by
  change ofOption? (Calendar.Instant.ofText? t.zuluText) = .ok t
  rw [Calendar.ofText?_zuluText h]
  rfl

theorem representable_of_instant {s : σ} {t : Calendar.Instant} (h : instant s = .ok t) :
    t.Representable := by
  unfold instant at h
  split at h
  · cases h
  · rename_i timestamp _
    cases hread : Calendar.Instant.ofText? timestamp with
    | none =>
        rw [hread] at h
        cases h
    | some t' =>
        rw [hread] at h
        cases h
        exact Calendar.representable_of_ofText? hread

/-- An artifact is read back from its data. -/
theorem decode_toJson {a : Artifact} (h : a.Storable) : decode a.toJson = .ok a := by
  have htext : ∀ s, text (Value.string s) = .ok s := fun _ => rfl
  have hkind : choice ArtifactKind.byTag (Value.string a.kind.tag) = .ok a.kind := by
    apply choice_string
    cases a.kind <;> decide
  rw [decode_eq_ok]
  unfold storedFields
  refine decode_of_spells ((spells_required hkind).map Stored.mk
    |>.seq (spells_required (htext a.filePath))
    |>.seq (spells_required (htext a.content))
    |>.seq (spells_required (htext a.hash))
    |>.seq (spells_required (naturalBelow_ofNat h.size))
    |>.seq (spells_required (instant_zuluText h.generatedAt))) (by decide) (.refl _) rfl

theorem stored_fits {s : σ} {t : Stored} (h : storedFields.decode s = .ok t) :
    t.generatedAt.Representable ∧ t.size < 2 ^ 64 := by
  obtain ⟨taken, -, h₁⟩ := Fields.decode_eq_ok h
  obtain ⟨_, generatedAt, h₂, htime, rfl⟩ := seq_eq_ok h₁
  obtain ⟨_, size, h₃, hsize, rfl⟩ := seq_eq_ok h₂
  -- The other four fields are of no account.
  obtain ⟨_, hash, h₄, -, rfl⟩ := seq_eq_ok h₃
  obtain ⟨_, content, h₅, -, rfl⟩ := seq_eq_ok h₄
  obtain ⟨_, filePath, h₆, -, rfl⟩ := seq_eq_ok h₅
  obtain ⟨kind, -, rfl⟩ := map_eq_ok h₆
  obtain ⟨timestamp, -, hinstant⟩ := required_eq_ok htime
  obtain ⟨number, -, hword⟩ := required_eq_ok hsize
  exact ⟨representable_of_instant hinstant, naturalBelow_eq_ok hword⟩

theorem storable_of_decode {s : σ} {a : Artifact} (h : decode s = .ok a) : a.Storable := by
  obtain ⟨htime, hsize⟩ := stored_fits (decode_eq_ok.mp h)
  exact ⟨htime, hsize⟩

theorem isPlain_toJson {depth : Nat} (hdepth : 1 < depth) {a : Artifact} (h : a.Storable) :
    a.toJson.isPlain depth = true := by
  refine Value.isPlain_object hdepth ?_
  simp [Value.isPlain_ofNat h.size]

end FormScaffold.Artifact
