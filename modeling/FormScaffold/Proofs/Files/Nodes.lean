import FormScaffold.Files.FileSystem

/-!
# What locations hold

The list of a file system answers lookups as a map does: setting a location and removing a
tree change what is below them as they should, and nothing else.  Locations are ordered, and
in an ordered list a lookup finds every entry, so what lies below a folder is read off
lookups alone.
-/

namespace FormScaffold.Files

/-! ## The order of locations -/

theorem locationBefore_irrefl (l : Location) : locationBefore l l = false := by
  induction l with
  | nil => rfl
  | cons a as ih => simp [locationBefore, ih]

theorem locationBefore_trans {k l m : Location} (hkl : locationBefore k l = true)
    (hlm : locationBefore l m = true) : locationBefore k m = true := by
  induction k generalizing l m with
  | nil =>
      cases l with
      | nil => cases hkl
      | cons b bs =>
          cases m with
          | nil => cases hlm
          | cons c cs => rfl
  | cons a as ih =>
      cases l with
      | nil => cases hkl
      | cons b bs =>
          cases m with
          | nil => cases hlm
          | cons c cs =>
              -- The first names decide unless they are equal, and then the rest does.
              simp only [locationBefore, Bool.or_eq_true, decide_eq_true_eq, Bool.and_eq_true,
                beq_iff_eq] at hkl hlm ⊢
              rcases hkl with hab | ⟨rfl, has⟩
              · rcases hlm with hbc | ⟨rfl, -⟩
                · exact Or.inl (String.lt_trans hab hbc)
                · exact Or.inl hab
              · rcases hlm with hbc | ⟨rfl, hbs⟩
                · exact Or.inl hbc
                · exact Or.inr ⟨rfl, ih has hbs⟩

/-- Of two different locations one comes first. -/
theorem locationBefore_total {k l : Location} (hne : k ≠ l) (h : locationBefore k l = false) :
    locationBefore l k = true := by
  induction k generalizing l with
  | nil =>
      cases l with
      | nil => exact absurd rfl hne
      | cons b bs => cases h
  | cons a as ih =>
      cases l with
      | nil => rfl
      | cons b bs =>
          simp only [locationBefore, Bool.or_eq_false_iff, decide_eq_false_iff_not] at h
          obtain ⟨hnot, hrest⟩ := h
          simp only [locationBefore, Bool.or_eq_true, decide_eq_true_eq, Bool.and_eq_true,
            beq_iff_eq]
          by_cases hab : a = b
          · subst hab
            refine Or.inr ⟨rfl, ih (fun h => hne (by rw [h])) ?_⟩
            simpa using hrest
          · refine Or.inl ?_
            rcases String.le_total a b with hle | hle
            · have hba : ¬ b ≤ a := fun hba => hab (String.le_antisymm hle hba)
              exact absurd (String.not_le.mp hba) hnot
            · have hba : ¬ a ≤ b := fun hle' => hab (String.le_antisymm hle' hle)
              exact String.not_le.mp hba

theorem locationBefore_append (l k m : Location) :
    locationBefore (l ++ k) (l ++ m) = locationBefore k m := by
  induction l with
  | nil => rfl
  | cons a as ih => simp [locationBefore, ih]

/-- A list of nodes in the order of their locations. -/
def Sorted (nodes : List (Location × Node)) : Prop :=
  nodes.Pairwise fun a b => locationBefore a.1 b.1 = true

instance (nodes : List (Location × Node)) : Decidable (Sorted nodes) :=
  inferInstanceAs (Decidable (nodes.Pairwise fun a b => locationBefore a.1 b.1 = true))

namespace FileSystem

/-! ## Lookups -/

theorem lookup_insertNode_self (l : Location) (n : Node) (nodes : List (Location × Node)) :
    (insertNode l n nodes).lookup l = some n := by
  induction nodes with
  | nil => simp [insertNode]
  | cons p rest ih =>
      obtain ⟨k, m⟩ := p
      unfold insertNode
      by_cases hkl : k = l
      · simp [hkl]
      · rw [if_neg (by simpa using hkl)]
        split
        · exact List.lookup_cons_self
        · rw [List.lookup_cons]
          have hlk : (l == k) = false := by simpa using fun h => hkl h.symm
          simp only [hlk]
          exact ih

theorem lookup_insertNode_of_ne {k l : Location} (hne : k ≠ l) (n : Node)
    (nodes : List (Location × Node)) : (insertNode l n nodes).lookup k = nodes.lookup k := by
  have hkl : (k == l) = false := by simpa using hne
  induction nodes with
  | nil => simp [insertNode, hne]
  | cons p rest ih =>
      obtain ⟨k', m⟩ := p
      unfold insertNode
      by_cases hl : k' = l
      · subst hl
        simp [List.lookup_cons, hkl]
      · rw [if_neg (by simpa using hl)]
        split
        · rw [List.lookup_cons, hkl]
        · rw [List.lookup_cons, List.lookup_cons, ih]

theorem lookup_filter_key (f : Location → Bool) (k : Location) (nodes : List (Location × Node)) :
    (nodes.filter fun p => f p.1).lookup k = if f k then nodes.lookup k else none := by
  induction nodes with
  | nil => simp
  | cons p rest ih =>
      obtain ⟨k', m⟩ := p
      by_cases hkey : f k' = true
      · rw [List.filter_cons_of_pos (by simpa using hkey), List.lookup_cons, ih, List.lookup_cons]
        by_cases hk : k = k'
        · subst hk
          simp [hkey]
        · have hne : (k == k') = false := by simpa using hk
          simp [hne]
      · rw [List.filter_cons_of_neg (by simpa using hkey), ih, List.lookup_cons]
        by_cases hk : k = k'
        · subst hk
          simp [hkey]
        · have hne : (k == k') = false := by simpa using hk
          simp [hne]

@[simp] theorem node?_nil (fs : FileSystem) : fs.node? [] = some .folder := rfl

theorem node?_of_ne_nil (fs : FileSystem) {l : Location} (h : l ≠ []) :
    fs.node? l = fs.nodes.lookup l := by
  cases l with
  | nil => exact absurd rfl h
  | cons a as => rfl

@[simp] theorem put_working (fs : FileSystem) (l : Location) (n : Node) :
    (fs.put l n).working = fs.working := rfl

@[simp] theorem removeTree_working (fs : FileSystem) (l : Location) :
    (fs.removeTree l).working = fs.working := rfl

/-- A location that is set holds what it was set to. -/
theorem node?_put_self (fs : FileSystem) {l : Location} (h : l ≠ []) (n : Node) :
    (fs.put l n).node? l = some n := by
  rw [node?_of_ne_nil _ h]
  exact lookup_insertNode_self l n fs.nodes

/-- Setting a location changes no other. -/
theorem node?_put_of_ne (fs : FileSystem) {k l : Location} (h : k ≠ l) (n : Node) :
    (fs.put l n).node? k = fs.node? k := by
  cases k with
  | nil => rfl
  | cons a as => exact lookup_insertNode_of_ne h n fs.nodes

/-- Nothing is left at a removed location and below it. -/
theorem node?_removeTree_of_prefix (fs : FileSystem) {k l : Location} (hk : k ≠ [])
    (h : l <+: k) : (fs.removeTree l).node? k = none := by
  rw [node?_of_ne_nil _ hk]
  change (fs.nodes.filter fun p => !l.isPrefixOf p.1).lookup k = none
  rw [lookup_filter_key fun k => !l.isPrefixOf k]
  have hin : l.isPrefixOf k = true := List.isPrefixOf_iff_prefix.mpr h
  simp [hin]

/-- Removing a tree changes nothing outside it. -/
theorem node?_removeTree_of_not_prefix (fs : FileSystem) {k l : Location} (h : ¬ l <+: k) :
    (fs.removeTree l).node? k = fs.node? k := by
  cases k with
  | nil => rfl
  | cons a as =>
      change (fs.nodes.filter fun p => !l.isPrefixOf p.1).lookup (a :: as) =
        fs.nodes.lookup (a :: as)
      rw [lookup_filter_key fun k => !l.isPrefixOf k]
      have hout : ¬ l.isPrefixOf (a :: as) = true := fun hin =>
        h (List.isPrefixOf_iff_prefix.mp hin)
      simp [hout]

/-! ## Ordered lists -/

theorem mem_insertNode {l : Location} {n : Node} {nodes : List (Location × Node)}
    {p : Location × Node} (h : p ∈ insertNode l n nodes) : p = (l, n) ∨ p ∈ nodes := by
  induction nodes with
  | nil => simpa [insertNode] using h
  | cons q rest ih =>
      obtain ⟨k, m⟩ := q
      unfold insertNode at h
      split at h
      · rcases List.mem_cons.mp h with h | h
        · exact Or.inl h
        · exact Or.inr (List.mem_cons_of_mem _ h)
      · split at h
        · exact List.mem_cons.mp h
        · rcases List.mem_cons.mp h with h | h
          · exact Or.inr (h ▸ List.mem_cons_self)
          · exact (ih h).imp_right (List.mem_cons_of_mem _)

theorem sorted_insertNode (l : Location) (n : Node) {nodes : List (Location × Node)}
    (h : Sorted nodes) : Sorted (insertNode l n nodes) := by
  induction nodes with
  | nil => exact List.pairwise_singleton _ _
  | cons p rest ih =>
      obtain ⟨k, m⟩ := p
      obtain ⟨hfirst, hrest⟩ := List.pairwise_cons.mp h
      unfold insertNode
      by_cases hkl : k = l
      · subst hkl
        simp only [beq_self_eq_true, if_true]
        exact List.pairwise_cons.mpr ⟨hfirst, hrest⟩
      · rw [if_neg (by simpa using hkl)]
        by_cases hbefore : locationBefore l k = true
        · rw [if_pos hbefore]
          refine List.pairwise_cons.mpr ⟨fun q hq => ?_, h⟩
          rcases List.mem_cons.mp hq with rfl | hq
          · exact hbefore
          · exact locationBefore_trans hbefore (hfirst q hq)
        · rw [if_neg hbefore]
          refine List.pairwise_cons.mpr ⟨fun q hq => ?_, ih hrest⟩
          rcases mem_insertNode hq with rfl | hq
          -- The new node comes after the first one, as it is neither the same nor before it.
          · exact locationBefore_total (fun h => hkl h.symm) (by simpa using hbefore)
          · exact hfirst q hq

theorem sorted_put {fs : FileSystem} (h : Sorted fs.nodes) (l : Location) (n : Node) :
    Sorted (fs.put l n).nodes := sorted_insertNode l n h

theorem sorted_removeTree {fs : FileSystem} (h : Sorted fs.nodes) (l : Location) :
    Sorted (fs.removeTree l).nodes := h.filter _

/-- In an ordered list a lookup finds every entry. -/
theorem mem_iff_lookup {nodes : List (Location × Node)} (h : Sorted nodes) (l : Location)
    (n : Node) : (l, n) ∈ nodes ↔ nodes.lookup l = some n := by
  induction nodes with
  | nil => simp
  | cons p rest ih =>
      obtain ⟨k, m⟩ := p
      obtain ⟨hfirst, hrest⟩ := List.pairwise_cons.mp h
      rw [List.mem_cons, List.lookup_cons, Prod.mk.injEq]
      by_cases hkl : l = k
      · subst hkl
        have hout : (l, n) ∉ rest := by
          intro hmem
          have := hfirst _ hmem
          rw [locationBefore_irrefl] at this
          cases this
        simp [hout, eq_comm]
      · have hne : (l == k) = false := by simpa using hkl
        simp [hne, hkl, ih hrest]

/-- What lies below a location, told by lookups. -/
theorem mem_below {fs : FileSystem} (h : Sorted fs.nodes) (l rel : Location) (n : Node) :
    (rel, n) ∈ fs.below l ↔ rel ≠ [] ∧ fs.node? (l ++ rel) = some n := by
  unfold below
  rw [List.mem_filterMap]
  constructor
  · rintro ⟨⟨k, m⟩, hmem, hsome⟩
    simp only [Bool.and_eq_true, List.isPrefixOf_iff_prefix, decide_eq_true_eq] at hsome
    split at hsome
    · rename_i hbelow
      obtain ⟨⟨rest, rfl⟩, hlength⟩ := hbelow
      simp only [List.drop_left, Option.some.injEq, Prod.mk.injEq] at hsome
      obtain ⟨rfl, rfl⟩ := hsome
      have hne : rest ≠ [] := by
        intro hnil
        simp [hnil] at hlength
      refine ⟨hne, ?_⟩
      rw [node?_of_ne_nil _ (by simp [hne])]
      exact (mem_iff_lookup h _ _).mp hmem
    · cases hsome
  · rintro ⟨hne, hnode⟩
    rw [node?_of_ne_nil _ (by simp [hne])] at hnode
    refine ⟨(l ++ rel, n), (mem_iff_lookup h _ _).mpr hnode, ?_⟩
    simp [hne]

/-- What lies below a location is listed in order. -/
theorem sorted_below {fs : FileSystem} (h : Sorted fs.nodes) (l : Location) :
    Sorted (fs.below l) := by
  unfold below
  refine List.Pairwise.filterMap _ ?_ h
  intro a b hab c hc d hd
  simp only [Bool.and_eq_true, List.isPrefixOf_iff_prefix, decide_eq_true_eq] at hc hd
  split at hc
  · rename_i ha
    split at hd
    · rename_i hb
      obtain ⟨⟨rest, hrest⟩, -⟩ := ha
      obtain ⟨⟨rest', hrest'⟩, -⟩ := hb
      rw [← hrest, ← hrest', locationBefore_append] at hab
      simp only [← hrest, ← hrest', List.drop_left, Option.some.injEq] at hc hd
      rw [← hc, ← hd]
      exact hab
    · cases hd
  · cases hc

/-- No place below a location is listed twice. -/
theorem nodup_below {fs : FileSystem} (h : Sorted fs.nodes) (l : Location) :
    (fs.below l).Nodup := by
  refine (sorted_below h l).imp fun {p q} hpq heq => ?_
  rw [heq, locationBefore_irrefl] at hpq
  cases hpq

/-- Among what lies below a location one finds what lookups find there. -/
theorem lookup_below {fs : FileSystem} (h : Sorted fs.nodes) (l : Location) {rel : Location}
    (hrel : rel ≠ []) : (fs.below l).lookup rel = fs.node? (l ++ rel) := by
  refine Option.ext fun n => ?_
  rw [← mem_iff_lookup (sorted_below h l), mem_below h]
  simp [hrel]

end FileSystem

end FormScaffold.Files
