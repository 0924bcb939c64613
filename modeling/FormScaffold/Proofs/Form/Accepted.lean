import FormScaffold.Form.Definition
import FormScaffold.Proofs.Pipeline.Recording
import FormScaffold.Proofs.Text.Cutting
import Mathlib.Data.List.Nodup
import Mathlib.Data.Nat.Find
import Mathlib.Order.Bounds.Basic

/-!
# Accepted forms

A form is accepted if and only if it has fields, every field has a name and a type, and no two
fields have the same key.  Any other form with fields is told what spoils them first: the complaint
is about the field up to which the fields are not usable any more, while those before it are.  A
run for the form is rejected with the same words.
-/

namespace FormScaffold

namespace FormField

/-- The field has a name and a type. -/
structure IsGiven (f : FormField) : Prop where
  name : Text.isBlankText f.name = false
  type : Text.isBlankText f.fieldType = false

theorem problem?_eq_none {f : FormField} {index : Nat} {seen : List String} :
    f.problem? index seen = none ↔ f.IsGiven ∧ f.key ∉ seen := by
  unfold problem?
  constructor
  · intro h
    split at h
    · cases h
    · rename_i hname
      split at h
      · cases h
      · rename_i htype
        split at h
        · cases h
        · rename_i hkey
          exact ⟨⟨by simpa using hname, by simpa using htype⟩, by simpa using hkey⟩
  · rintro ⟨⟨hname, htype⟩, hkey⟩
    simp [hname, htype, hkey]

end FormField

namespace FormDefinition

/-- What is asked of a form. -/
structure Accepted (d : FormDefinition) : Prop where
  fields : d.fields ≠ []
  given : ∀ f ∈ d.fields, f.IsGiven
  keys : (d.fields.map FormField.key).Nodup

/-- No problem is found among fields if each is given and its key is new. -/
theorem firstProblem?_eq_none {fields : List FormField} {index : Nat} {seen : List String} :
    firstProblem? index seen fields = none ↔
      (∀ f ∈ fields, f.IsGiven) ∧ (fields.map FormField.key).Nodup ∧
        ∀ f ∈ fields, f.key ∉ seen := by
  induction fields generalizing index seen with
  | nil => simp [firstProblem?]
  | cons f rest ih =>
      have hstep : firstProblem? index seen (f :: rest) = none ↔
          f.problem? index seen = none ∧ firstProblem? (index + 1) (f.key :: seen) rest = none := by
        rw [firstProblem?]
        cases f.problem? index seen <;> simp
      rw [hstep, FormField.problem?_eq_none, ih, List.forall_mem_cons, List.forall_mem_cons,
        List.map_cons, List.nodup_cons]
      constructor
      · rintro ⟨⟨hgiven, hkey⟩, hrest, hnodup, hnew⟩
        refine ⟨⟨hgiven, hrest⟩, ⟨fun hmem => ?_, hnodup⟩, hkey, fun g hg hseen =>
          hnew g hg (List.mem_cons_of_mem _ hseen)⟩
        obtain ⟨g, hg, heq⟩ := List.mem_map.mp hmem
        rw [← heq] at hnew
        exact hnew g hg List.mem_cons_self
      · rintro ⟨⟨hgiven, hrest⟩, ⟨hself, hnodup⟩, hkey, hnew⟩
        refine ⟨⟨hgiven, hkey⟩, hrest, hnodup, fun g hg hseen => ?_⟩
        rcases List.mem_cons.mp hseen with heq | hseen
        · rw [← heq] at hself
          exact hself (List.mem_map_of_mem hg)
        · exact hnew g hg hseen

theorem validate_eq_ok {d : FormDefinition} : d.validate = .ok () ↔ d.Accepted := by
  have hproblem : d.validate = .ok () ↔ d.problem? = none := by
    unfold validate
    cases d.problem? <;> simp
  rw [hproblem, problem?]
  constructor
  · intro h
    split at h
    · cases h
    · rename_i hfields
      obtain ⟨hgiven, hkeys, -⟩ := firstProblem?_eq_none.mp h
      exact ⟨by simpa using hfields, hgiven, hkeys⟩
  · rintro ⟨hfields, hgiven, hkeys⟩
    rw [if_neg (by simpa using hfields)]
    exact firstProblem?_eq_none.mpr ⟨hgiven, hkeys, fun _ _ h => nomatch h⟩

end FormDefinition

/-! ## The first problem -/

/-- Fields that a form may have. -/
structure Usable (fields : List FormField) : Prop where
  names : ∀ f ∈ fields, Text.trimmed f.name ≠ ""
  types : ∀ f ∈ fields, Text.trimmed f.fieldType ≠ ""
  distinct : fields.Pairwise fun f g =>
    Text.lowercase (Text.trimmed f.name) ≠ Text.lowercase (Text.trimmed g.name)

namespace FormField

theorem isGiven_iff {f : FormField} :
    f.IsGiven ↔ Text.trimmed f.name ≠ "" ∧ Text.trimmed f.fieldType ≠ "" := by
  simp only [ne_eq, Text.trimmed_eq_empty, Bool.not_eq_true]
  exact ⟨fun h => ⟨h.name, h.type⟩, fun h => ⟨h.1, h.2⟩⟩

/-- What is said of the field at `index` that spoils the usable fields before it. -/
def complaint (f : FormField) (index : Nat) : FormProblem :=
  if Text.trimmed f.name = "" then .emptyName index
  else if Text.trimmed f.fieldType = "" then .emptyType (Text.trimmed f.name)
  else .duplicateName (Text.trimmed f.name)

/-- A field has no other problem than what is said of it. -/
theorem problem?_eq_some {f : FormField} {index : Nat} {seen : List String} {p : FormProblem} :
    f.problem? index seen = some p ↔ f.problem? index seen ≠ none ∧ p = f.complaint index := by
  unfold problem? complaint
  simp only [Text.trimmed_eq_empty]
  split
  · simp [eq_comm]
  · split
    · simp [eq_comm, trimmedName]
    · split <;> simp [eq_comm, trimmedName]

end FormField

namespace FormDefinition

theorem firstProblem?_eq_none_iff {fields : List FormField} :
    firstProblem? 0 [] fields = none ↔ Usable fields := by
  rw [firstProblem?_eq_none, List.Nodup, List.pairwise_map]
  constructor
  · rintro ⟨hgiven, hkeys, -⟩
    exact ⟨fun f hf => (FormField.isGiven_iff.mp (hgiven f hf)).1,
      fun f hf => (FormField.isGiven_iff.mp (hgiven f hf)).2, hkeys⟩
  · intro h
    exact ⟨fun f hf => FormField.isGiven_iff.mpr ⟨h.names f hf, h.types f hf⟩, h.distinct,
      fun _ _ hseen => nomatch hseen⟩

instance (fields : List FormField) : Decidable (Usable fields) :=
  decidable_of_iff _ firstProblem?_eq_none_iff

/-- Fields without problems hand on their keys to the fields after them. -/
theorem firstProblem?_append {before after : List FormField} {index : Nat} {seen : List String}
    (h : firstProblem? index seen before = none) :
    firstProblem? index seen (before ++ after) =
      firstProblem? (index + before.length) ((before.map FormField.key).reverse ++ seen) after := by
  induction before generalizing index seen with
  | nil => rfl
  | cons f rest ih =>
      rw [firstProblem?] at h
      rw [List.cons_append, firstProblem?]
      cases hf : f.problem? index seen with
      | some p => rw [hf] at h; cases h
      | none =>
          rw [hf] at h
          simp only [ih h, List.length_cons, List.map_cons, List.reverse_cons, List.append_assoc,
            List.singleton_append]
          rw [Nat.add_right_comm, Nat.add_assoc]

/-- Fields that are not usable have a first one that spoils those before it. -/
theorem exists_spoiled {fields : List FormField} (h : ¬ Usable fields) :
    ∃ i, IsLeast {i | i < fields.length ∧ ¬ Usable (fields.take (i + 1))} i := by
  classical
  have hsome : ∃ i, i < fields.length ∧ ¬ Usable (fields.take (i + 1)) := by
    cases fields with
    | nil => exact absurd ⟨nofun, nofun, List.Pairwise.nil⟩ h
    | cons f rest => exact ⟨rest.length, by simp, by simpa using h⟩
  exact ⟨Nat.find hsome, Nat.find_spec hsome, fun _ hi => Nat.find_min' hsome hi⟩

/-- The first field that spoils those before it is the one complained about. -/
theorem firstProblem?_of_isLeast {fields : List FormField} {i : Nat}
    (h : IsLeast {i | i < fields.length ∧ ¬ Usable (fields.take (i + 1))} i) :
    ∃ f, fields[i]? = some f ∧ firstProblem? 0 [] fields = some (f.complaint i) := by
  obtain ⟨⟨hi, hspoiled⟩, hleast⟩ := h
  -- The fields before it are usable: they are none, or they end at a smaller index.
  have hbefore : firstProblem? 0 [] (fields.take i) = none := by
    rw [firstProblem?_eq_none_iff]
    by_contra hnot
    obtain ⟨j, ⟨hj, hnotj⟩, -⟩ := exists_spoiled hnot
    rw [List.length_take, Nat.min_eq_left (Nat.le_of_lt hi)] at hj
    rw [List.take_take, Nat.min_eq_left hj] at hnotj
    exact Nat.not_le_of_lt hj (hleast ⟨Nat.lt_trans hj hi, hnotj⟩)
  refine ⟨fields[i], List.getElem?_eq_getElem hi, ?_⟩
  have hlength : (fields.take i).length = i :=
    (List.length_take_of_le (Nat.le_of_lt hi))
  have hproblem : fields[i].problem? i ((fields.take i).map FormField.key).reverse ≠ none := by
    intro hnone
    refine hspoiled (firstProblem?_eq_none_iff.mp ?_)
    rw [← List.take_append_getElem hi, firstProblem?_append hbefore, hlength, Nat.zero_add,
      List.append_nil, firstProblem?, hnone]
    rfl
  have hsplit : fields = fields.take i ++ fields[i] :: fields.drop (i + 1) := by
    rw [List.getElem_cons_drop, List.take_append_drop]
  conv_lhs => rw [hsplit]
  rw [firstProblem?_append hbefore, hlength, Nat.zero_add, List.append_nil, firstProblem?,
    FormField.problem?_eq_some.mpr ⟨hproblem, rfl⟩]

/-- A run for a form that is not accepted is rejected with what is said of the form, and leaves the
world alone. -/
theorem generate_rejects {ω : Type} (p : Pipeline ω) {request : GenerationRequest} {e : InputError}
    (h : request.form.validate = .error e) (w : ω) :
    p.generate request w = (.error (.rejected (.validation e.message)), w) := by
  have hform : request.validateForm = .error (.validation e.message) := by
    rw [GenerationRequest.validateForm, h]
  have hstart : p.start request w = (.error (.validation e.message), w) := by
    unfold Pipeline.start
    rw [hform]
    rfl
  unfold Pipeline.generate
  rw [Pipeline.run_bind hstart]
  rfl

/-- A form is accepted if and only if it has fields and they are usable.  Any other form that has
fields is told of the first field that spoils the fields before it, and a run for any form that
is not accepted is rejected with just what the form is told. -/
theorem validate_tells_least_spoiling_field (d : FormDefinition) :
    (d.validate = .ok () ↔ d.fields ≠ [] ∧ Usable d.fields) ∧
    (d.fields ≠ [] → ∀ e, d.validate = .error e ↔ ∃ i f, d.fields[i]? = some f ∧
      IsLeast {i | i < d.fields.length ∧ ¬ Usable (d.fields.take (i + 1))} i ∧
      e = .form (f.complaint i).message) ∧
    ∀ e, d.validate = .error e →
      ∀ {ω : Type} (p : Pipeline ω) (request : GenerationRequest) (w : ω), request.form = d →
        p.generate request w = (.error (.rejected (.validation e.message)), w) := by
  have hfields : d.fields ≠ [] → d.problem? = firstProblem? 0 [] d.fields := fun h => by
    rw [problem?, if_neg (by simpa using h)]
  refine ⟨?_, fun hgiven e => ?_, ?_⟩
  · rw [validate_eq_ok, ← firstProblem?_eq_none_iff, firstProblem?_eq_none]
    exact ⟨fun h => ⟨h.fields, h.given, h.keys, fun _ _ hseen => nomatch hseen⟩,
      fun h => ⟨h.1, h.2.1, h.2.2.1⟩⟩
  · have htold : d.validate = .error e ↔
        ∃ p, firstProblem? 0 [] d.fields = some p ∧ e = .form p.message := by
      rw [validate, hfields hgiven]
      cases firstProblem? 0 [] d.fields <;> simp [eq_comm]
    rw [htold]
    constructor
    · rintro ⟨p, hp, rfl⟩
      have hunusable : ¬ Usable d.fields := fun h => by
        rw [firstProblem?_eq_none_iff.mpr h] at hp
        cases hp
      obtain ⟨i, hi⟩ := exists_spoiled hunusable
      obtain ⟨f, hf, hfirst⟩ := firstProblem?_of_isLeast hi
      cases hp.symm.trans hfirst
      exact ⟨i, f, hf, hi, rfl⟩
    · rintro ⟨i, f, hf, hi, rfl⟩
      obtain ⟨f', hf', hfirst⟩ := firstProblem?_of_isLeast hi
      cases hf.symm.trans hf'
      exact ⟨_, hfirst, rfl⟩
  · rintro e he ω p request w rfl
    exact generate_rejects p he w

/-- A form whose third field has the name of the first in other letters.  The second has not, and
the fourth has no name at all. -/
def doubledForm : FormDefinition where
  name := none
  description := none
  fields :=
    [⟨"Straße", "text", false, none, none, none, none, none, none, []⟩,
     ⟨" STRASSE", "text", false, none, none, none, none, none, none, []⟩,
     ⟨"straße\t", " date", true, none, none, none, none, none, none, []⟩,
     ⟨" ", "text", true, none, none, none, none, none, none, []⟩]

theorem doubledForm_rejected :
    IsLeast {i | i < doubledForm.fields.length ∧ ¬ Usable (doubledForm.fields.take (i + 1))} 2 ∧
    doubledForm.validate = .error (.form "Duplicate field name 'straße'") ∧
    ∀ (p : Pipeline Unit) (options : GenerationOptions),
      p.generate ⟨⟨1⟩, ⟨2⟩, 1, doubledForm, options, "ann"⟩ () = (.error (.rejected
        (.validation "Form definition error: Duplicate field name 'straße'")), ()) := by
  have hbefore : ∀ i < 2, Usable (doubledForm.fields.take (i + 1)) := by decide +kernel
  have hthird : ¬ Usable (doubledForm.fields.take 3) := by decide +kernel
  have hleast : IsLeast
      {i | i < doubledForm.fields.length ∧ ¬ Usable (doubledForm.fields.take (i + 1))} 2 :=
    ⟨⟨by decide, hthird⟩, fun i hi => Nat.le_of_not_lt fun hsmall => hi.2 (hbefore i hsmall)⟩
  have htold : doubledForm.validate = .error (.form "Duplicate field name 'straße'") :=
    ((validate_tells_least_spoiling_field doubledForm).2.1 (by decide) _).mpr
      ⟨2, _, rfl, hleast, by decide +kernel⟩
  exact ⟨hleast, htold, fun p options =>
    (validate_tells_least_spoiling_field doubledForm).2.2 _ htold p _ () rfl⟩

end FormDefinition

end FormScaffold
