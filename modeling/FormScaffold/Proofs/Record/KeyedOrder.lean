import Mathlib.Data.List.Forall2
import FormScaffold.Keyed

/-!
# Keyed lists in order

A map from texts is in order of its keys.  Insertion keeps the order, so a map made of pairs
is in order whatever the pairs are, and a map that is in order is made of its own pairs.  Two
maps match if they have the same keys and related values; what is put into both of them at one
key leaves them matching.
-/

namespace FormScaffold.Keyed

variable {α β : Type}

/-- The pairs are in ascending order of their keys, each key occurring once. -/
def Ordered (m : Keyed α) : Prop := m.Pairwise fun a b => a.1 < b.1

instance (m : Keyed α) : Decidable m.Ordered :=
  inferInstanceAs (Decidable (m.Pairwise fun a b => a.1 < b.1))

theorem mem_insert {key : String} {value : α} {m : Keyed α} {p : String × α}
    (h : p ∈ insert key value m) : p = (key, value) ∨ p ∈ m := by
  induction m with
  | nil => simpa [insert] using h
  | cons q rest ih =>
      obtain ⟨k, v⟩ := q
      unfold insert at h
      split at h
      · rcases List.mem_cons.mp h with h | h
        · exact Or.inl h
        · exact Or.inr (List.mem_cons_of_mem _ h)
      · split at h
        · exact List.mem_cons.mp h
        · rcases List.mem_cons.mp h with h | h
          · exact Or.inr (h ▸ List.mem_cons_self)
          · rcases ih h with h | h
            · exact Or.inl h
            · exact Or.inr (List.mem_cons_of_mem _ h)

theorem ordered_insert (key : String) (value : α) {m : Keyed α} (h : m.Ordered) :
    Ordered (insert key value m) := by
  induction m with
  | nil => exact List.pairwise_singleton _ _
  | cons q rest ih =>
      obtain ⟨k, v⟩ := q
      obtain ⟨hfirst, hrest⟩ := List.pairwise_cons.mp h
      unfold insert
      by_cases hsame : (key == k) = true
      · rw [if_pos hsame, eq_of_beq hsame]
        exact List.pairwise_cons.mpr ⟨hfirst, hrest⟩
      rw [if_neg hsame]
      by_cases hless : key < k
      · rw [if_pos hless]
        refine List.pairwise_cons.mpr ⟨fun p hp => ?_, h⟩
        rcases List.mem_cons.mp hp with rfl | hp
        · exact hless
        · exact String.lt_trans hless (hfirst p hp)
      · rw [if_neg hless]
        -- The keys are different, so the given one comes after the first.
        have hafter : k < key := by
          have hle : k ≤ key := String.not_lt.mp hless
          have hne : key ≠ k := by simpa using hsame
          exact String.not_le.mp fun hback => hne (String.le_antisymm hback hle)
        refine List.pairwise_cons.mpr ⟨fun p hp => ?_, ih hrest⟩
        rcases mem_insert hp with rfl | hp
        · exact hafter
        · exact hfirst p hp

/-- A map that is made of pairs is in order. -/
theorem ordered_ofPairs (pairs : List (String × α)) : Ordered (ofPairs pairs) := by
  have hfold : ∀ m : Keyed α, m.Ordered →
      Ordered (pairs.foldl (fun m p => insert p.1 p.2 m) m) := by
    induction pairs with
    | nil => exact fun m hm => hm
    | cons p rest ih => exact fun m hm => ih _ (ordered_insert p.1 p.2 hm)
  exact hfold [] List.Pairwise.nil

theorem insert_last {key : String} {value : α} {m : Keyed α} (h : ∀ p ∈ m, p.1 < key) :
    insert key value m = m ++ [(key, value)] := by
  induction m with
  | nil => rfl
  | cons q rest ih =>
      obtain ⟨k, v⟩ := q
      have hk : k < key := h (k, v) List.mem_cons_self
      have hsame : ¬ (key == k) = true := by
        intro heq
        rw [eq_of_beq heq] at hk
        exact String.lt_irrefl k hk
      have hless : ¬ key < k := fun hback => String.lt_irrefl k (String.lt_trans hk hback)
      unfold insert
      rw [if_neg hsame, if_neg hless, ih fun p hp => h p (List.mem_cons_of_mem _ hp)]
      rfl

/-- A map that is in order is made of its pairs. -/
theorem ofPairs_of_ordered {m : Keyed α} (h : m.Ordered) : ofPairs m = m := by
  have hfold : ∀ before : Keyed α, (before ++ m).Pairwise (fun a b => a.1 < b.1) →
      m.foldl (fun m p => insert p.1 p.2 m) before = before ++ m := by
    induction m with
    | nil => intro before _; simp
    | cons p rest ih =>
        intro before hall
        have hlast : ∀ q ∈ before, q.1 < p.1 := fun q hq =>
          (List.pairwise_append.mp hall).2.2 q hq p List.mem_cons_self
        rw [List.foldl_cons, insert_last hlast,
          ih (List.pairwise_cons.mp h).2 _ (by simpa using hall)]
        simp
  exact hfold [] h

theorem insert_ne_nil (key : String) (value : α) (m : Keyed α) : insert key value m ≠ [] := by
  cases m with
  | nil => exact List.cons_ne_nil _ _
  | cons p rest =>
      unfold insert
      split
      · exact List.cons_ne_nil _ _
      · split <;> exact List.cons_ne_nil _ _

theorem isEmpty_ofPairs (pairs : List (String × α)) : (ofPairs pairs).isEmpty = pairs.isEmpty := by
  cases pairs with
  | nil => rfl
  | cons p rest =>
      have hfold : rest.foldl (fun m p => insert p.1 p.2 m) (insert p.1 p.2 []) ≠ [] :=
        List.foldlRecOn rest _ (motive := (· ≠ [])) (insert_ne_nil _ _ _)
          fun m _ q _ => insert_ne_nil q.1 q.2 m
      exact List.isEmpty_eq_false_iff.mpr hfold

theorem ordered_iff_keys {m : Keyed α} : m.Ordered ↔ m.keys.Pairwise (· < ·) :=
  List.pairwise_map.symm

theorem get?_insert (key other : String) (value : α) (m : Keyed α) :
    get? other (insert key value m) = if other = key then some value else get? other m := by
  induction m with
  | nil =>
      by_cases h : other = key <;> simp [insert, get?, h]
  | cons p rest ih =>
      obtain ⟨k, v⟩ := p
      unfold insert
      split
      next hsame =>
        obtain rfl := eq_of_beq hsame
        by_cases h : other = key <;> simp [get?, h]
      next hsame =>
        split
        · by_cases h : other = key <;> simp [get?, h]
        · by_cases h : other = key
          · subst h
            simp_all [get?]
          · by_cases hk : other = k <;> simp_all [get?]

theorem get?_eq_lookup (key : String) (m : Keyed α) : get? key m = m.lookup key := by
  induction m with
  | nil => rfl
  | cons p rest ih =>
      obtain ⟨k, v⟩ := p
      rw [List.lookup_cons, ← ih, get?]
      cases key == k <;> rfl

theorem mem_of_get? {key : String} {value : α} {m : Keyed α} (h : get? key m = some value) :
    (key, value) ∈ m := by
  induction m with
  | nil => cases h
  | cons q rest ih =>
      obtain ⟨k, v⟩ := q
      unfold get? at h
      split at h
      next hsame =>
        cases h
        rw [eq_of_beq hsame]
        exact List.mem_cons_self
      next => exact List.mem_cons_of_mem _ (ih h)

theorem get?_eq_some_iff {key : String} {value : α} {m : Keyed α} (hordered : m.Ordered) :
    get? key m = some value ↔ (key, value) ∈ m := by
  refine ⟨mem_of_get?, fun h => ?_⟩
  induction m with
  | nil => cases h
  | cons q rest ih =>
      obtain ⟨k, v⟩ := q
      obtain ⟨hfirst, hrest⟩ := List.pairwise_cons.mp hordered
      unfold get?
      rcases List.mem_cons.mp h with heq | h
      · cases heq
        rw [if_pos (beq_self_eq_true key)]
      · rw [if_neg, ih hrest h]
        intro hsame
        rw [eq_of_beq hsame] at h
        exact String.lt_irrefl k (hfirst _ h)

theorem mem_insert_iff {key : String} {value : α} {m : Keyed α} (hordered : m.Ordered)
    {p : String × α} :
    p ∈ insert key value m ↔ p = (key, value) ∨ p.1 ≠ key ∧ p ∈ m := by
  obtain ⟨k, v⟩ := p
  rw [← get?_eq_some_iff (ordered_insert key value hordered), get?_insert,
    ← get?_eq_some_iff hordered]
  by_cases hkey : k = key
  · simp [hkey, eq_comm]
  · simp [hkey]

/-- Maps in order are equal if they have the same pairs. -/
theorem eq_of_mem_iff {m n : Keyed α} (hm : m.Ordered) (hn : n.Ordered)
    (h : ∀ p, p ∈ m ↔ p ∈ n) : m = n := by
  have hnodup : ∀ {l : Keyed α}, l.Ordered → l.Nodup := fun hl =>
    List.Pairwise.imp (fun {a b} hlt (heq : a = b) => String.lt_irrefl b.1 (heq ▸ hlt)) hl
  refine List.Perm.eq_of_pairwise (fun a b _ _ hab hba => ?_) hm hn
    ((List.perm_ext_iff_of_nodup (hnodup hm) (hnodup hn)).mpr h)
  exact absurd (String.lt_trans hab hba) (String.lt_irrefl _)

/-- Inserting what is there already changes nothing. -/
theorem insert_of_get? {key : String} {value : α} {m : Keyed α} (hordered : m.Ordered)
    (h : get? key m = some value) : insert key value m = m := by
  induction m with
  | nil => cases h
  | cons q rest ih =>
      obtain ⟨k, v⟩ := q
      obtain ⟨hfirst, hrest⟩ := List.pairwise_cons.mp hordered
      unfold get? at h
      unfold insert
      by_cases hsame : (key == k) = true
      · rw [if_pos hsame] at h
        cases h
        rw [if_pos hsame, eq_of_beq hsame]
      rw [if_neg hsame] at h
      have hafter : k < key := hfirst _ (mem_of_get? h)
      have hless : ¬ key < k := fun hback => String.lt_irrefl k (String.lt_trans hafter hback)
      rw [if_neg hsame, if_neg hless, ih hrest h]

/-- A map made of pairs with different keys has the values of the pairs. -/
theorem get?_ofPairs {pairs : List (String × α)} (h : (pairs.map Prod.fst).Nodup) (key : String) :
    get? key (ofPairs pairs) = pairs.lookup key := by
  have hfold : ∀ m : Keyed α, get? key (pairs.foldl (fun m p => insert p.1 p.2 m) m) =
      (pairs.lookup key).or (get? key m) := by
    induction pairs with
    | nil => intro m; rfl
    | cons p rest ih =>
        intro m
        obtain ⟨k, v⟩ := p
        obtain ⟨hfirst, hrest⟩ := List.nodup_cons.mp h
        rw [List.foldl_cons, ih hrest, get?_insert, List.lookup_cons]
        by_cases hkey : key = k
        · have hnone : rest.lookup key = none := by
            rw [List.lookup_eq_none_iff]
            intro q hq
            have hne : key ≠ q.1 := fun heq =>
              hfirst (List.mem_map.mpr ⟨q, hq, heq.symm.trans hkey⟩)
            simpa using hne
          simp [hkey ▸ hnone, hkey]
        · have hne : (key == k) = false := by simpa using hkey
          simp [hkey, hne]
  rw [ofPairs, hfold]
  simp [get?]

theorem mem_ofPairs {pairs : List (String × α)} {p : String × α} (h : p ∈ ofPairs pairs) :
    p ∈ pairs := by
  have hfold : ∀ m : Keyed α, p ∈ pairs.foldl (fun m p => insert p.1 p.2 m) m →
      p ∈ m ∨ p ∈ pairs := by
    clear h
    induction pairs with
    | nil => exact fun m hm => Or.inl hm
    | cons q rest ih =>
        intro m hm
        rcases ih _ hm with hm | hm
        · rcases mem_insert hm with rfl | hm
          · exact Or.inr List.mem_cons_self
          · exact Or.inl hm
        · exact Or.inr (List.mem_cons_of_mem _ hm)
  rcases hfold [] h with hnone | hp
  · cases hnone
  · exact hp

theorem insert_perm {key : String} {value : α} {m : Keyed α} (h : key ∉ m.keys) :
    (insert key value m).Perm ((key, value) :: m) := by
  induction m with
  | nil => exact .refl _
  | cons p rest ih =>
      obtain ⟨k, v⟩ := p
      obtain ⟨hne, hrest⟩ := not_or.mp (mt List.mem_cons.mpr h)
      unfold insert
      rw [if_neg (by simpa using hne)]
      split
      · exact .refl _
      · exact ((ih hrest).cons _).trans (.swap ..)

/-- A map made of pairs with different keys has just these pairs. -/
theorem ofPairs_perm {pairs : List (String × α)} (h : (pairs.map Prod.fst).Nodup) :
    (ofPairs pairs).Perm pairs := by
  have hfold : ∀ m : Keyed α, (m.keys ++ pairs.map Prod.fst).Nodup →
      (pairs.foldl (fun m p => insert p.1 p.2 m) m).Perm (m ++ pairs) := by
    clear h
    induction pairs with
    | nil => intro m _; simp
    | cons p rest ih =>
        intro m hkeys
        rw [List.map_cons, ← List.singleton_append, ← List.append_assoc] at hkeys
        have hnew : p.1 ∉ m.keys := fun hmem =>
          (List.nodup_append.mp (List.nodup_append.mp hkeys).1).2.2 _ hmem _
            List.mem_cons_self rfl
        have hinsert : (insert p.1 p.2 m).Perm (m ++ [p]) :=
          (insert_perm hnew).trans (List.perm_append_singleton p m).symm
        have hkeys' : ((insert p.1 p.2 m).keys ++ rest.map Prod.fst).Nodup := by
          refine ((hinsert.map Prod.fst).append_right _).nodup_iff.mpr ?_
          rw [List.map_append, List.map_singleton]
          exact hkeys
        rw [List.foldl_cons]
        refine (ih _ hkeys').trans ?_
        simpa using hinsert.append_right rest
  simpa [ofPairs] using hfold [] (by simpa [keys] using h)

theorem insert_mapValues {β : Type} (f : α → β) (key : String) (v : α) (m : Keyed α) :
    insert key (f v) (mapValues f m) = mapValues f (insert key v m) := by
  induction m with
  | nil => rfl
  | cons p rest ih =>
      obtain ⟨k, u⟩ := p
      unfold mapValues at ih ⊢
      simp only [List.map_cons, insert]
      split
      · rfl
      · split
        · rfl
        · rw [ih, List.map_cons]

theorem ofPairs_mapValues {β : Type} (f : α → β) (m : Keyed α) :
    ofPairs (mapValues f m) = mapValues f (ofPairs m) := by
  have hfold : ∀ before : Keyed α, (mapValues f m).foldl (fun m p => insert p.1 p.2 m)
      (mapValues f before) = mapValues f (m.foldl (fun m p => insert p.1 p.2 m) before) := by
    induction m with
    | nil => exact fun _ => rfl
    | cons p rest ih =>
        intro before
        rw [List.foldl_cons, ← ih, ← insert_mapValues]
        rfl
  exact hfold []

/-! ## Maps with the same keys -/

/-- Two maps have the same keys, and at each of them related values. -/
def Matches (R : String → α → β → Prop) (m : Keyed α) (n : Keyed β) : Prop :=
  List.Forall₂ (fun p q => p.1 = q.1 ∧ R p.1 p.2 q.2) m n

namespace Matches

variable {R : String → α → β → Prop} {m : Keyed α} {n : Keyed β}

theorem keys (h : Matches R m n) : m.keys = n.keys := by
  induction h with
  | nil => rfl
  | cons hpair _ ih => exact congrArg₂ List.cons hpair.1 ih

theorem ordered (h : Matches R m n) (hordered : n.Ordered) : m.Ordered := by
  rw [ordered_iff_keys] at *
  rwa [h.keys]

/-- What is in the first map has a related value in the second one. -/
theorem mem (h : Matches R m n) {p : String × α} (hp : p ∈ m) :
    ∃ q ∈ n, R p.1 p.2 q.2 := by
  induction h with
  | nil => cases hp
  | cons hpair _ ih =>
      rcases List.mem_cons.mp hp with rfl | hp
      · exact ⟨_, List.mem_cons_self, hpair.2⟩
      · obtain ⟨q, hq, hrelated⟩ := ih hp
        exact ⟨q, List.mem_cons_of_mem _ hq, hrelated⟩

/-- A key has values in both maps, which are related, or in none. -/
theorem get? (h : Matches R m n) (key : String) :
    (∃ v w, Keyed.get? key m = some v ∧ Keyed.get? key n = some w ∧ R key v w) ∨
      (Keyed.get? key m = none ∧ Keyed.get? key n = none) := by
  induction h with
  | nil => exact Or.inr ⟨rfl, rfl⟩
  | @cons p q _ _ hpair _ ih =>
      obtain ⟨hkey, hrelated⟩ := hpair
      simp only [Keyed.get?, ← hkey]
      by_cases hsame : (key == p.1) = true
      · rw [if_pos hsame, if_pos hsame]
        rw [eq_of_beq hsame]
        exact Or.inl ⟨p.2, q.2, rfl, rfl, hrelated⟩
      · rw [if_neg hsame, if_neg hsame]
        exact ih

theorem insert (h : Matches R m n) {key : String} {v : α} {w : β} (hrelated : R key v w) :
    Matches R (Keyed.insert key v m) (Keyed.insert key w n) := by
  induction h with
  | nil => exact List.Forall₂.cons ⟨rfl, hrelated⟩ List.Forall₂.nil
  | @cons p q _ _ hpair hrest ih =>
      obtain ⟨k, x⟩ := p
      obtain ⟨l, y⟩ := q
      obtain rfl : k = l := hpair.1
      simp only [Keyed.insert]
      split
      · exact List.Forall₂.cons ⟨rfl, hrelated⟩ hrest
      · split
        · exact List.Forall₂.cons ⟨rfl, hrelated⟩ (List.Forall₂.cons hpair hrest)
        · exact List.Forall₂.cons hpair ih

end Matches

end FormScaffold.Keyed
