import FormScaffold.Json.Value
import FormScaffold.Proofs.Record.KeyedOrder

/-!
# Values in order

A value is normalized by putting the members of its objects in order.  What is normalized stays as
it is, and an object whose members have different names keeps all of them.
-/

namespace FormScaffold.Json.Value

theorem normalizedItems_eq_map (vs : List Value) : normalizedItems vs = vs.map normalized := by
  induction vs with
  | nil => rfl
  | cons v vs ih => rw [normalizedItems, ih, List.map_cons]

theorem normalizedMembers_eq_map (ms : List (String × Value)) :
    normalizedMembers ms = ms.map fun m => (m.1, m.2.normalized) := by
  induction ms with
  | nil => rfl
  | cons m ms ih =>
      obtain ⟨k, v⟩ := m
      rw [normalizedMembers, ih, List.map_cons]

theorem normalizedMembers_append (ms ns : List (String × Value)) :
    normalizedMembers (ms ++ ns) = normalizedMembers ms ++ normalizedMembers ns := by
  simp only [normalizedMembers_eq_map, List.map_append]

theorem lookup_normalizedMembers (key : String) (ms : List (String × Value)) :
    (normalizedMembers ms).lookup key = (ms.lookup key).map normalized := by
  induction ms with
  | nil => rfl
  | cons m ms ih =>
      obtain ⟨k, v⟩ := m
      rw [normalizedMembers, List.lookup_cons, List.lookup_cons, ih]
      cases key == k <;> rfl

/-- The value of a member of a normalized object. -/
theorem get?_normalizedMembers {ms : List (String × Value)} (hkeys : (ms.map Prod.fst).Nodup)
    {key : String} {v : Value} (h : ms.lookup key = some v) :
    Keyed.get? key (Keyed.ofPairs (normalizedMembers ms)) = some v.normalized := by
  have hnodup : ((normalizedMembers ms).map Prod.fst).Nodup := by
    rw [normalizedMembers_eq_map]
    simpa [Function.comp_def] using hkeys
  rw [Keyed.get?_ofPairs hnodup, lookup_normalizedMembers, h]
  rfl

theorem normalized_ofOption {α : Type} (f : α → Value) (o : Option α) :
    (ofOption f o).normalized = ofOption (fun a => (f a).normalized) o := by
  cases o <;> rfl

theorem normalized_optionalText (o : Option String) :
    (ofOption .string o).normalized = ofOption .string o := by
  cases o <;> rfl

theorem normalized_optionalNumber (o : Option Nat) :
    (ofOption .ofNat o).normalized = ofOption .ofNat o := by
  cases o <;> rfl

theorem normalized_ofStringMap (m : Keyed String) :
    (ofStringMap m).normalized = .object (Keyed.mapValues .string (Keyed.ofPairs m)) := by
  have hmembers : normalizedMembers (m.mapValues .string) = m.mapValues .string := by
    rw [normalizedMembers_eq_map]
    simp [Keyed.mapValues, normalized]
  rw [ofStringMap, normalized, hmembers, Keyed.ofPairs_mapValues]

/-! ## Values that are in order -/

theorem normalizedMembers_eq_self {ms : List (String × Value)}
    (h : ∀ m ∈ ms, m.2.normalized = m.2) : normalizedMembers ms = ms := by
  rw [normalizedMembers_eq_map]
  refine (List.map_congr_left fun m hm => ?_).trans (List.map_id _)
  rw [h m hm]
  rfl

mutual

/-- A normalized value stays as it is. -/
theorem normalized_normalized : (v : Value) → v.normalized.normalized = v.normalized
  | .null | .bool _ | .number _ | .string _ => rfl
  | .array items => by
      rw [normalized, normalized, normalizedItems_normalizedItems items]
  | .object members => by
      -- The values of the members are normalized already, and their keys are in order.
      have hmembers := normalizedMembers_eq_self fun m hm =>
        normalized_of_mem_normalizedMembers members m (Keyed.mem_ofPairs hm)
      rw [normalized, normalized, hmembers, Keyed.ofPairs_of_ordered (Keyed.ordered_ofPairs _)]

theorem normalizedItems_normalizedItems : (vs : List Value) →
    normalizedItems (normalizedItems vs) = normalizedItems vs
  | [] => rfl
  | v :: vs => by
      rw [normalizedItems, normalizedItems, normalized_normalized v,
        normalizedItems_normalizedItems vs]

theorem normalized_of_mem_normalizedMembers : (ms : List (String × Value)) →
    ∀ m ∈ normalizedMembers ms, m.2.normalized = m.2
  | [] => nofun
  | (k, v) :: ms => by
      intro m hm
      rw [normalizedMembers] at hm
      rcases List.mem_cons.mp hm with rfl | hm
      · exact normalized_normalized v
      · exact normalized_of_mem_normalizedMembers ms m hm

end

end FormScaffold.Json.Value
