import FormScaffold.Text.Blank
import Mathlib.Data.List.TakeWhile

/-!
# Texts cut at their ends and at their lines

What is left of a trimmed text is a part of it whose ends are not of the trimmed class, and a text
with such ends is left as it is.  Nothing is left only of a text that has nothing else.

A text that is written line by line is cut into these lines at its line breaks.
-/

namespace FormScaffold.Text

theorem dropEndWhile_isPrefix (p : Char → Bool) (cs : List Char) : dropEndWhile p cs <+: cs := by
  unfold dropEndWhile
  have h := List.reverse_prefix.mpr (List.dropWhile_suffix p (l := cs.reverse))
  rwa [List.reverse_reverse] at h

theorem trimBoth_subset (p : Char → Bool) (cs : List Char) : trimBoth p cs ⊆ cs := fun _ h =>
  (List.dropWhile_suffix p).subset ((dropEndWhile_isPrefix p _).subset h)

/-- What is left of a trimmed text does not start with what was trimmed. -/
theorem head?_trimBoth {p : Char → Bool} {cs : List Char} {c : Char}
    (h : (trimBoth p cs).head? = some c) : p c = false := by
  obtain ⟨rest, hrest⟩ := dropEndWhile_isPrefix p (cs.dropWhile p)
  have hhead : (cs.dropWhile p).head? = some c := by
    rw [← hrest, List.head?_append]
    change ((trimBoth p cs).head?).or _ = _
    rw [h, Option.some_or]
  have hnot := List.head?_dropWhile_not p cs
  rw [hhead] at hnot
  simpa using hnot

theorem getLast?_dropEndWhile {p : Char → Bool} {cs : List Char} {c : Char}
    (h : (dropEndWhile p cs).getLast? = some c) : p c = false := by
  rw [dropEndWhile, List.getLast?_reverse] at h
  have hnot := List.head?_dropWhile_not p cs.reverse
  rw [h] at hnot
  simpa using hnot

theorem dropEndWhile_eq_self {p : Char → Bool} {cs : List Char}
    (h : ∀ c, cs.getLast? = some c → p c = false) : dropEndWhile p cs = cs := by
  have hkept : cs.reverse.dropWhile p = cs.reverse := by
    cases hchars : cs.reverse with
    | nil => rfl
    | cons c rest =>
        have hlast : cs.getLast? = some c := by
          rw [← List.head?_reverse, hchars, List.head?_cons]
        exact List.dropWhile_cons_of_neg (Bool.eq_false_iff.mp (h c hlast))
  rw [dropEndWhile, hkept, List.reverse_reverse]

theorem trimBoth_eq_self {p : Char → Bool} {cs : List Char}
    (hstart : ∀ c, cs.head? = some c → p c = false)
    (hstop : ∀ c, cs.getLast? = some c → p c = false) : trimBoth p cs = cs := by
  have hkept : cs.dropWhile p = cs := by
    cases cs with
    | nil => rfl
    | cons c rest => exact List.dropWhile_cons_of_neg (Bool.eq_false_iff.mp (hstart c rfl))
  rw [trimBoth, hkept, dropEndWhile_eq_self hstop]

theorem trimBoth_eq_nil {p : Char → Bool} {cs : List Char} :
    trimBoth p cs = [] ↔ ∀ c ∈ cs, p c = true := by
  constructor
  · intro h
    have hnil : (cs.dropWhile p).reverse.dropWhile p = [] := List.reverse_eq_nil_iff.mp h
    have hall := List.dropWhile_eq_nil_iff.mp hnil
    -- What is left of the front starts with a character of another class, if there is any.
    have hrest : cs.dropWhile p = [] := by
      by_contra hrest
      have hhead := List.head_dropWhile_not p hrest
      rw [hall _ (List.mem_reverse.mpr (List.head_mem hrest))] at hhead
      cases hhead
    exact List.dropWhile_eq_nil_iff.mp hrest
  · intro h
    rw [trimBoth, List.dropWhile_eq_nil_iff.mpr h]
    rfl

/-- Nothing is left of a text when it is trimmed if and only if it is blank. -/
theorem trimmed_eq_empty {s : String} : trimmed s = "" ↔ isBlankText s = true := by
  rw [trimmed, ← String.toList_eq_nil_iff, String.toList_ofList, trim, trimBoth_eq_nil, isBlankText,
    List.all_eq_true]

/-! ## Lines -/

theorem splitOn_lines {lines : List String} (h : ∀ line ∈ lines, '\n' ∉ line.toList)
    (rest : List Char) :
    ((String.join (lines.map fun line => line ++ "\n")).toList ++ rest).splitOn '\n' =
      lines.map String.toList ++ rest.splitOn '\n' := by
  induction lines with
  | nil => rfl
  | cons line lines ih =>
      rw [List.map_cons, String.join_cons, String.toList_append, String.toList_append,
        List.append_assoc, List.append_assoc]
      change (line.toList ++ '\n' :: (_ ++ rest)).splitOn '\n' = _
      rw [List.splitOn_append_cons_self_of_not_mem (h line List.mem_cons_self),
        ih fun l hl => h l (List.mem_cons_of_mem _ hl)]
      rfl

end FormScaffold.Text
