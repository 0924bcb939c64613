import FormScaffold.Output.Readme
import FormScaffold.Proofs.Path.Names
import FormScaffold.Proofs.Record.KeyedOrder
import Mathlib.Logic.Relation

/-!
# Trees of paths

A path of names leads through a tree, or out of it.  The tree of some paths is in order at every
depth, and the paths that lead through it are those that one of the given paths starts with.  A tree
in order is told by the paths that lead through it, so neither the order of the given paths nor
slashes that name nothing make a difference to it.
-/

namespace FormScaffold.Output.FolderTree

open Path

/-- The names lead from the root of a tree to something in it. -/
def Holds : FolderTree → List String → Prop
  | _, [] => True
  | t, name :: rest => ∃ below, (name, below) ∈ t.children ∧ below.Holds rest

/-- The names in a tree are in order, at every depth. -/
inductive Ordered : FolderTree → Prop where
  | node {children : List (String × FolderTree)} (names : Keyed.Ordered children)
      (below : ∀ c ∈ children, Ordered c.2) : Ordered (.node children)

/-! ## Names that are in order -/

theorem ordered_empty : Ordered empty := .node .nil nofun

theorem Ordered.getD {children : List (String × FolderTree)}
    (h : ∀ c ∈ children, Ordered c.2) (name : String) :
    Ordered ((Keyed.get? name children).getD empty) := by
  cases hget : Keyed.get? name children with
  | none => exact ordered_empty
  | some below => exact h _ (Keyed.mem_of_get? hget)

/-- Of what is below one name only one tree starts there. -/
theorem holds_cons_of_mem {children : List (String × FolderTree)}
    (h : Keyed.Ordered children) {name : String} {below : FolderTree}
    (hmem : (name, below) ∈ children) {rest : List String} :
    (node children).Holds (name :: rest) ↔ below.Holds rest := by
  constructor
  · rintro ⟨other, hother, hholds⟩
    have hsame := (Keyed.get?_eq_some_iff h).mpr hmem
    rw [(Keyed.get?_eq_some_iff h).mpr hother] at hsame
    cases hsame
    exact hholds
  · exact fun hholds => ⟨below, hmem, hholds⟩

/-- In a list in order, a change below a name replaces what is there. -/
theorem update_eq_insert {children : List (String × FolderTree)} (h : Keyed.Ordered children)
    (name : String) (change : FolderTree → FolderTree) :
    update name change children =
      Keyed.insert name (change ((Keyed.get? name children).getD empty)) children := by
  induction children with
  | nil => rfl
  | cons c rest ih =>
      obtain ⟨other, t⟩ := c
      obtain ⟨hfirst, hrest⟩ := List.pairwise_cons.mp h
      unfold update Keyed.insert Keyed.get?
      by_cases hsame : name = other
      · subst hsame
        simp
      · have hne : ¬ other = name := fun heq => hsame heq.symm
        simp only [beq_iff_eq, hsame, hne, if_false]
        by_cases hless : name < other
        · -- All later names are greater, so the name is not there.
          have hnone : Keyed.get? name rest = none := by
            rw [Option.eq_none_iff_forall_not_mem]
            intro below hbelow
            have hlater := hfirst _ (Keyed.mem_of_get? hbelow)
            exact String.lt_irrefl _ (String.lt_trans hless hlater)
          simp only [hless, if_true, hnone, Option.getD_none]
        · simp only [hless, if_false, ih hrest]

theorem insert_cons {children : List (String × FolderTree)} (h : Keyed.Ordered children)
    (name : String) (rest : List String) :
    insert (name :: rest) (.node children) =
      .node (Keyed.insert name (insert rest ((Keyed.get? name children).getD empty)) children) := by
  rw [insert, FolderTree.children, update_eq_insert h]

theorem ordered_insert (names : List String) {t : FolderTree} (h : t.Ordered) :
    (insert names t).Ordered := by
  induction names generalizing t with
  | nil => exact h
  | cons name rest ih =>
      obtain ⟨hnames, hbelow⟩ := h
      rw [insert_cons hnames]
      refine .node (Keyed.ordered_insert _ _ hnames) fun c hc => ?_
      rcases Keyed.mem_insert hc with rfl | hc
      · exact ih (Ordered.getD hbelow name)
      · exact hbelow c hc

/-! ## Paths through a tree -/

theorem holds_empty {p : List String} : empty.Holds p ↔ p = [] := by
  cases p with
  | nil => simp [Holds]
  | cons name rest => simp [Holds, empty, children]

theorem holds_getD {children : List (String × FolderTree)} (h : Keyed.Ordered children)
    {name : String} {p : List String} :
    ((Keyed.get? name children).getD empty).Holds p ↔
      p = [] ∨ (node children).Holds (name :: p) := by
  cases hget : Keyed.get? name children with
  | none =>
      have hnone : ¬ (node children).Holds (name :: p) := by
        rintro ⟨below, hmem, -⟩
        rw [(Keyed.get?_eq_some_iff h).mpr hmem] at hget
        cases hget
      simp [holds_empty, hnone]
  | some below =>
      rw [Option.getD_some, holds_cons_of_mem h (Keyed.mem_of_get? hget)]
      refine ⟨Or.inr, fun hp => hp.elim ?_ id⟩
      rintro rfl
      trivial

/-- Adding a path makes what it starts with lead through the tree, and nothing else. -/
theorem holds_insert (names : List String) {t : FolderTree} (h : t.Ordered) {p : List String} :
    (insert names t).Holds p ↔ t.Holds p ∨ p <+: names := by
  induction names generalizing t p with
  | nil =>
      rw [insert, List.prefix_nil]
      refine ⟨Or.inl, fun hp => hp.elim id ?_⟩
      rintro rfl
      trivial
  | cons name rest ih =>
      obtain ⟨hnames, hbelow⟩ := h
      rw [insert_cons hnames]
      cases p with
      | nil => simp [Holds]
      | cons first p =>
          rw [List.cons_prefix_cons]
          by_cases hsame : first = name
          · subst hsame
            have hmem : ∀ t, (first, t) ∈ Keyed.insert first t _ := fun t =>
              (Keyed.mem_insert_iff hnames).mpr (Or.inl rfl)
            rw [holds_cons_of_mem (Keyed.ordered_insert _ _ hnames) (hmem _),
              ih (Ordered.getD hbelow first), holds_getD hnames]
            -- The empty path is one that the rest starts with.
            have hempty : p = [] → p <+: rest := fun hp => hp ▸ List.nil_prefix
            tauto
          · simp only [Holds, children, Keyed.mem_insert_iff hnames, Prod.mk.injEq, hsame,
              false_and, false_or, ne_eq, not_false_eq_true, true_and, or_false]

/-- The tree of some paths is in order, and holds what the paths start with. -/
theorem holds_foldl (paths : List String) {t : FolderTree} (h : t.Ordered) :
    (paths.foldl (fun t path => t.insert (namesOf path)) t).Ordered ∧
      ∀ p, (paths.foldl (fun t path => t.insert (namesOf path)) t).Holds p ↔
        t.Holds p ∨ ∃ path ∈ paths, p <+: namesOf path := by
  induction paths generalizing t with
  | nil => simpa using h
  | cons path rest ih =>
      obtain ⟨hordered, hholds⟩ := ih (ordered_insert (namesOf path) h)
      refine ⟨hordered, fun p => ?_⟩
      rw [List.foldl_cons, hholds, holds_insert _ h, or_assoc, List.exists_mem_cons_iff]

theorem ordered_ofPaths (paths : List String) : (ofPaths paths).Ordered :=
  (holds_foldl paths ordered_empty).1

theorem holds_ofPaths {paths : List String} {p : List String} :
    (ofPaths paths).Holds p ↔ p = [] ∨ ∃ path ∈ paths, p <+: namesOf path := by
  rw [ofPaths, (holds_foldl paths ordered_empty).2, holds_empty]

/-- Trees in order are equal if the same paths lead through them. -/
theorem eq_of_holds_iff {t u : FolderTree} (ht : t.Ordered) (hu : u.Ordered)
    (h : ∀ p, t.Holds p ↔ u.Holds p) : t = u := by
  induction ht generalizing u with
  | @node cs hnames _ ih =>
      obtain ⟨hnames', hbelow'⟩ := hu
      rename_i ds
      -- What is below a name in both trees is equal, since the same paths lead through it.
      have hbelow : ∀ {name t u}, (name, t) ∈ cs → (name, u) ∈ ds → t = u := by
        intro name t u ht hu
        refine ih _ ht (hbelow' _ hu) fun p => ?_
        rw [← holds_cons_of_mem hnames ht, h, holds_cons_of_mem hnames' hu]
      congr 1
      refine Keyed.eq_of_mem_iff hnames hnames' fun ⟨name, t⟩ => ⟨fun ht => ?_, fun ht => ?_⟩
      · obtain ⟨u, hu, -⟩ := (h [name]).mp ⟨t, ht, trivial⟩
        rwa [hbelow ht hu]
      · obtain ⟨u, hu, -⟩ := (h [name]).mpr ⟨t, ht, trivial⟩
        rwa [← hbelow hu ht]

/-! ## Other spellings of paths -/

theorem namesOf_append_slash (before after : String) :
    namesOf (before ++ "/" ++ after) = namesOf before ++ namesOf after := by
  unfold namesOf
  have hslash : (before ++ "/" ++ after).toList = before.toList ++ '/' :: after.toList := by simp
  rw [hslash, segmentsOf_append_slash, List.filter_append, List.map_append]

/-- The second path has one slash more than the first, which separates no other names. -/
inductive SlashAdded : String → String → Prop where
  | doubled (before after : String) : SlashAdded (before ++ "/" ++ after) (before ++ "//" ++ after)
  | leading (path : String) : SlashAdded path ("/" ++ path)
  | trailing (path : String) : SlashAdded path (path ++ "/")

theorem SlashAdded.namesOf_eq {path other : String} (h : SlashAdded path other) :
    namesOf other = namesOf path := by
  have hempty : namesOf "" = [] := by decide
  cases h with
  | doubled before after =>
      -- Between two slashes lies the empty path, which names nothing.
      have hslashes : before ++ "//" ++ after = before ++ "/" ++ "" ++ "/" ++ after := by
        simp [← String.toList_inj]
      rw [hslashes, namesOf_append_slash, namesOf_append_slash, namesOf_append_slash, hempty,
        List.append_nil]
  | leading =>
      have h := namesOf_append_slash "" path
      rwa [String.empty_append, hempty, List.nil_append] at h
  | trailing =>
      have h := namesOf_append_slash path ""
      rwa [String.append_empty, hempty, List.append_nil] at h

/-- The second list of paths spells the same paths as the first. -/
inductive Respelled : List String → List String → Prop where
  | permuted {paths others : List String} (h : paths.Perm others) : Respelled paths others
  | repeated {paths : List String} {path : String} (h : path ∈ paths) :
      Respelled paths (path :: paths)
  | slashed {paths : List String} {path other : String} (h : SlashAdded path other) :
      Respelled (path :: paths) (other :: paths)

theorem Respelled.starts_iff {paths others : List String} (h : Respelled paths others)
    {p : List String} :
    (∃ path ∈ paths, p <+: namesOf path) ↔ ∃ path ∈ others, p <+: namesOf path := by
  cases h with
  | permuted hperm => simp only [hperm.mem_iff]
  | repeated hmem =>
      rw [List.exists_mem_cons_iff]
      exact ⟨Or.inr, fun hp => hp.elim (fun hfirst => ⟨_, hmem, hfirst⟩) id⟩
  | slashed hslash => rw [List.exists_mem_cons_iff, List.exists_mem_cons_iff, hslash.namesOf_eq]

/-- Other spellings of the paths have the same tree. -/
theorem ofPaths_respelled {paths others : List String}
    (h : Relation.EqvGen Respelled paths others) : ofPaths others = ofPaths paths := by
  induction h with
  | rel paths others h =>
      refine eq_of_holds_iff (ordered_ofPaths _) (ordered_ofPaths _) fun p => ?_
      rw [holds_ofPaths, holds_ofPaths, h.starts_iff]
  | refl => rfl
  | symm _ _ _ ih => exact ih.symm
  | trans _ _ _ _ _ ih ih' => exact ih'.trans ih

end FormScaffold.Output.FolderTree
