import FormScaffold.Proofs.Registry.Building
import Mathlib.Algebra.GroupWithZero.Nat
import Mathlib.Data.List.Nodup

/-!
# What a registry lists

A registry goes through its templates to list those of a category, to count them, to find out
which source files are missing and to tell whether one of them is there.  Each template is listed
once, the lists are in order of priority and name, the counts are the lengths of the lists, and a
source file is missing exactly if it is not there.
-/

namespace FormScaffold

/-! ## Stable sorting -/

section Sorting

variable {α : Type} (key : α → Nat)

/-- Sorting by a number keeps the elements with one number in their order. -/
theorem filter_mergeSort (k : Nat) (l : List α) :
    (l.mergeSort fun a b => decide (key a ≤ key b)).filter (fun a => key a == k) =
      l.filter fun a => key a == k := by
  have hties : (l.filter fun a => key a == k).Pairwise fun a b => decide (key a ≤ key b) := by
    refine List.pairwise_of_forall_mem_list fun a ha b hb => ?_
    have hsame : key a = key b := by
      rw [eq_of_beq (List.mem_filter.mp ha).2, eq_of_beq (List.mem_filter.mp hb).2]
    simp [hsame]
  have hsub := (List.sublist_mergeSort (by simpa using fun _ _ _ => Nat.le_trans)
    (by simpa using fun _ _ => Nat.le_total _ _) hties List.filter_sublist).filter
    fun a => key a == k
  rw [List.filter_filter] at hsub
  simp only [Bool.and_self] at hsub
  exact (hsub.eq_of_length ((List.mergeSort_perm l _).filter _).length_eq.symm).symm

/-- What is sorted by a number is in order of the number, and then in the order it had. -/
theorem pairwise_mergeSort_ties {R : α → α → Prop} {l : List α} (h : l.Pairwise R) :
    (l.mergeSort fun a b => decide (key a ≤ key b)).Pairwise fun a b =>
      key a < key b ∨ key a = key b ∧ R a b := by
  have hsorted : (l.mergeSort fun a b => decide (key a ≤ key b)).Pairwise fun a b =>
      decide (key a ≤ key b) = true :=
    List.pairwise_mergeSort (by simpa using fun _ _ _ => Nat.le_trans)
      (by simpa using fun _ _ => Nat.le_total _ _) l
  refine List.pairwise_of_forall_sublist fun {a b} hpair => ?_
  have hle : key a ≤ key b := of_decide_eq_true (List.pairwise_iff_forall_sublist.mp hsorted hpair)
  refine (Nat.lt_or_eq_of_le hle).imp_right fun hsame => ⟨hsame, ?_⟩
  have hties := hpair.filter fun x => key x == key a
  rw [filter_mergeSort] at hties
  simp only [List.filter_cons, List.filter_nil, beq_self_eq_true, hsame, if_true] at hties
  exact List.pairwise_iff_forall_sublist.mp h (hties.trans List.filter_sublist)

end Sorting

namespace Registry

variable {root : String} {entries : List TemplateEntry} {r : Registry} {e : TemplateEntry}

/-! ## Categories -/

theorem mem_inCategory {c : ArtifactCategory} :
    e ∈ r.inCategory c ↔ e ∈ r.entries ∧ e.category = c := by
  rw [inCategory, List.mem_mergeSort, List.mem_filter, beq_iff_eq]

theorem length_inCategory (r : Registry) (c : ArtifactCategory) :
    (r.inCategory c).length = r.entries.countP fun e => e.category == c := by
  rw [inCategory, List.length_mergeSort, List.countP_eq_length_filter]

theorem nodup_entries (h : r.entries.Pairwise fun e e' => e.name < e'.name) :
    r.entries.Nodup := by
  refine h.imp fun hbefore hsame => ?_
  rw [hsame] at hbefore
  exact String.lt_irrefl _ hbefore

/-- The lists of all categories together have each template once. -/
theorem inCategory_perm (h : r.entries.Pairwise fun e e' => e.name < e'.name) :
    (ArtifactCategory.all.flatMap r.inCategory).Perm r.entries := by
  have hnodup := nodup_entries h
  have hlisted : (ArtifactCategory.all.flatMap r.inCategory).Nodup := by
    refine List.nodup_flatMap.mpr ⟨fun c _ => ?_, ?_⟩
    · exact (List.mergeSort_perm _ _).nodup_iff.mpr (hnodup.filter _)
    · have hall : ArtifactCategory.all.Nodup := by decide
      refine hall.imp fun hne e he he' => hne ?_
      rw [← (mem_inCategory.mp he).2, (mem_inCategory.mp he').2]
  refine (List.perm_ext_iff_of_nodup hlisted hnodup).mpr fun e => ?_
  rw [List.mem_flatMap]
  constructor
  · rintro ⟨c, -, he⟩
    exact (mem_inCategory.mp he).1
  · exact fun he => ⟨e.category, by cases e.category <;> decide, mem_inCategory.mpr ⟨he, rfl⟩⟩

/-! ## Counts -/

/-- A category that has templates is counted with the length of its list. -/
theorem mem_countByCategory {c : ArtifactCategory} {n : Nat} :
    (c, n) ∈ r.countByCategory ↔ n = (r.inCategory c).length ∧ r.inCategory c ≠ [] := by
  rw [← List.length_pos_iff, length_inCategory, countByCategory, List.mem_filter, List.mem_map]
  constructor
  · rintro ⟨⟨c', -, hpair⟩, hsome⟩
    cases hpair
    exact ⟨rfl, Nat.pos_of_ne_zero (by simpa using hsome)⟩
  · rintro ⟨rfl, hsome⟩
    exact ⟨⟨c, by cases c <;> decide, rfl⟩, by simpa using Nat.ne_of_gt hsome⟩

theorem nodup_countByCategory (r : Registry) : (r.countByCategory.map Prod.fst).Nodup := by
  have hcategories : (r.countByCategory.map Prod.fst).Sublist ArtifactCategory.all := by
    rw [countByCategory, List.filter_map, List.map_map]
    simp [Function.comp_def]
  exact List.Nodup.sublist hcategories (by decide)

theorem sum_filter_ne_zero {α : Type} (counts : List (α × Nat)) :
    ((counts.filter fun p => p.2 != 0).map Prod.snd).sum = (counts.map Prod.snd).sum := by
  induction counts with
  | nil => rfl
  | cons p rest ih =>
      rw [List.filter_cons]
      split
      next => simp [ih]
      next hzero => simp [ih, show p.2 = 0 by simpa using hzero]

/-- The counts of all categories add up to the number of templates. -/
theorem sum_countByCategory (h : r.entries.Pairwise fun e e' => e.name < e'.name) :
    (r.countByCategory.map Prod.snd).sum = r.entries.length := by
  rw [← (inCategory_perm h).length_eq, List.length_flatMap, countByCategory, sum_filter_ne_zero,
    List.map_map]
  exact congrArg List.sum (List.map_congr_left fun c _ => (length_inCategory r c).symm)

/-! ## Missing source files -/

open Files

variable (fs : FileSystem)

/-- The missing templates are those that are registered and whose path holds no file. -/
theorem mem_missing (h : Describes r entries) {name : String} :
    name ∈ (r.missing fs).map Prod.fst ↔
      ∃ e, r.get name = .ok e ∧ fs.isFile (r.sourceOf e) = false := by
  have hget (e : TemplateEntry) : r.get name = .ok e ↔ e ∈ r.entries ∧ e.name = name := by
    rw [h.get, h.mem]
  simp only [hget, missing, List.map_map, List.mem_map, List.mem_filter, Bool.not_eq_true',
    Function.comp_apply]
  exact exists_congr fun e => and_right_comm

theorem pairwise_missing (h : r.entries.Pairwise fun e e' => e.name < e'.name) :
    ((r.missing fs).map Prod.fst).Pairwise (· < ·) := by
  rw [missing, List.map_map]
  exact List.pairwise_map.mpr (h.filter _)

/-- A template that is registered is available unless its source file is missing. -/
theorem isAvailable_eq_false_iff (h : Describes r entries) {name : String}
    (hname : r.contains name = true) :
    r.isAvailable fs name = false ↔ name ∈ (r.missing fs).map Prod.fst := by
  obtain ⟨e, he⟩ := exists_latest_iff.mpr ((h.contains name).mp hname)
  have hget := (h.get name e).mpr he
  rw [mem_missing fs h, hget, isAvailable, get_eq_ok.mp hget]
  simp

end Registry

end FormScaffold
