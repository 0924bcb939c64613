import FormScaffold.Text.Blank
import FormScaffold.Text.Search

/-!
# Replacing in texts

A replacement either leaves its text as it is, where the pattern does not occur, or holds what
was put in.  A text that is not blank therefore stays so when something is put in that is not
blank either.
-/

namespace FormScaffold.Text

theorem splitUpTo_ne_nil (n : Nat) (pattern text : List Char) : splitUpTo n pattern text ≠ [] := by
  cases n with
  | zero => simp [splitUpTo]
  | succ n =>
      unfold splitUpTo
      split <;> simp

/-- Replacing changes nothing where the pattern does not occur; otherwise the result holds the
replacement. -/
theorem replaceAll_cases {pattern : List Char} (hpattern : pattern ≠ [])
    (replacement text : List Char) :
    replaceAll pattern replacement text = text ∨
      ∃ before after, replaceAll pattern replacement text = before ++ (replacement ++ after) := by
  have hempty : pattern.isEmpty = false := by simpa using hpattern
  unfold replaceAll splitAt
  rw [hempty]
  cases text with
  | nil => simp [splitUpTo]
  | cons c cs =>
      simp only [List.length_cons, splitUpTo, Bool.false_eq_true, if_false]
      cases hcut : cut? pattern (c :: cs) with
      | none => simp
      | some parts =>
          obtain ⟨before, rest⟩ := parts
          obtain ⟨part, more, hmore⟩ :=
            List.exists_cons_of_ne_nil (splitUpTo_ne_nil cs.length pattern rest)
          refine Or.inr ⟨before, List.intercalate replacement (part :: more), ?_⟩
          simp only [hmore]
          simp [List.intercalate, List.intersperse]

/-- A text does not start with a pattern if it lacks one of its characters. -/
theorem afterPrefix?_eq_none {pattern text : List Char} (h : ∃ c ∈ pattern, c ∉ text) :
    afterPrefix? pattern text = none := by
  induction pattern generalizing text with
  | nil =>
      obtain ⟨c, hc, _⟩ := h
      cases hc
  | cons p ps ih =>
      cases text with
      | nil => rfl
      | cons d cs =>
          unfold afterPrefix?
          split
          next heq =>
            obtain ⟨c, hc, hnot⟩ := h
            have heq := eq_of_beq heq
            refine ih ⟨c, ?_, fun h => hnot (List.mem_cons_of_mem _ h)⟩
            obtain rfl | hc := List.mem_cons.mp hc
            · exact absurd (heq ▸ List.mem_cons_self) hnot
            · exact hc
          next => rfl

theorem isEmpty_eq_false {pattern text : List Char} (h : ∃ c ∈ pattern, c ∉ text) :
    pattern.isEmpty = false := by
  obtain ⟨c, hc, _⟩ := h
  exact List.isEmpty_eq_false_iff.mpr (List.ne_nil_of_mem hc)

/-- A pattern does not occur in a text that lacks one of its characters. -/
theorem cut?_eq_none {pattern text : List Char} (h : ∃ c ∈ pattern, c ∉ text) :
    cut? pattern text = none := by
  induction text with
  | nil =>
      unfold cut?
      rw [isEmpty_eq_false h]
      rfl
  | cons d cs ih =>
      have hrest : ∃ c ∈ pattern, c ∉ cs := by
        obtain ⟨c, hc, hnot⟩ := h
        exact ⟨c, hc, fun h => hnot (List.mem_cons_of_mem _ h)⟩
      unfold cut?
      rw [afterPrefix?_eq_none h, ih hrest]
      rfl

/-- Nothing is replaced where a character of the pattern does not occur. -/
theorem replaceAll_eq_self {pattern replacement text : List Char}
    (h : ∃ c ∈ pattern, c ∉ text) : replaceAll pattern replacement text = text := by
  unfold replaceAll splitAt
  rw [isEmpty_eq_false h]
  cases text with
  | nil => simp [splitUpTo]
  | cons d cs => simp [splitUpTo, cut?_eq_none h]

/-- A text is blank exactly when none of its characters is anything else. -/
theorem isBlankText_eq_false {s : String} :
    isBlankText s = false ↔ ∃ c ∈ s.toList, isBlank c = false := by
  simp [isBlankText]

/-- Putting something in that is not blank leaves no blank text behind. -/
theorem isBlankText_replaced {pattern replacement text : String} (hpattern : pattern ≠ "")
    (hreplacement : isBlankText replacement = false) (htext : isBlankText text = false) :
    isBlankText (replaced pattern replacement text) = false := by
  rw [isBlankText_eq_false] at *
  have hchars : pattern.toList ≠ [] := by simpa using hpattern
  unfold replaced
  rw [String.toList_ofList]
  obtain hsame | ⟨before, after, hheld⟩ :=
    replaceAll_cases hchars replacement.toList text.toList
  · rw [hsame]
    exact htext
  · obtain ⟨c, hc, hblank⟩ := hreplacement
    rw [hheld]
    exact ⟨c, by simp [hc], hblank⟩

/-! ## One character -/

/-- A cut at a character is a cut at its first occurrence. -/
theorem cut?_char {p : Char} {cs : List Char} :
    (∀ before rest, cut? [p] cs = some (before, rest) → cs = before ++ p :: rest ∧ p ∉ before) ∧
    (cut? [p] cs = none → p ∉ cs) := by
  induction cs with
  | nil => exact ⟨fun _ _ h => (nomatch h), fun _ => List.not_mem_nil⟩
  | cons c cs ih =>
      have hcut : cut? [p] (c :: cs) =
          if p = c then some ([], cs) else (cut? [p] cs).map fun q => (c :: q.1, q.2) := by
        by_cases hc : p = c <;> simp [cut?, afterPrefix?, hc]
      by_cases hc : p = c
      · rw [hcut, if_pos hc, hc]
        refine ⟨fun before rest h => ?_, fun h => nomatch h⟩
        cases h
        exact ⟨rfl, List.not_mem_nil⟩
      · rw [hcut, if_neg hc]
        refine ⟨fun before rest h => ?_, fun h hmem => ?_⟩
        · obtain ⟨⟨start, after⟩, hstart, hpair⟩ := Option.map_eq_some_iff.mp h
          cases hpair
          obtain ⟨rfl, hnot⟩ := ih.1 _ _ hstart
          exact ⟨rfl, fun hmem => (List.mem_cons.mp hmem).elim hc hnot⟩
        · exact (List.mem_cons.mp hmem).elim hc (ih.2 (Option.map_eq_none_iff.mp h))

/-- Replacing a character replaces each of its occurrences. -/
theorem replaceAll_char (p : Char) (replacement text : List Char) :
    replaceAll [p] replacement text = text.flatMap fun c => if c = p then replacement else [c] := by
  have hself : ∀ cs : List Char, p ∉ cs →
      (cs.flatMap fun c => if c = p then replacement else [c]) = cs := by
    intro cs hcs
    induction cs with
    | nil => rfl
    | cons c cs ih =>
        have hc : c ≠ p := fun heq => hcs (heq ▸ List.mem_cons_self)
        rw [List.flatMap_cons, if_neg hc, ih fun h => hcs (List.mem_cons_of_mem _ h)]
        rfl
  have hall : ∀ n (cs : List Char), cs.length ≤ n →
      List.intercalate replacement (splitUpTo n [p] cs) =
        cs.flatMap fun c => if c = p then replacement else [c] := by
    intro n
    induction n with
    | zero =>
        intro cs hn
        rw [List.length_eq_zero_iff.mp (Nat.le_zero.mp hn)]
        simp [splitUpTo, List.intercalate]
    | succ n ih =>
        intro cs hn
        rw [splitUpTo]
        split
        next before rest hcut =>
          obtain ⟨rfl, hbefore⟩ := cut?_char.1 _ _ hcut
          obtain ⟨part, more, hmore⟩ := List.exists_cons_of_ne_nil (splitUpTo_ne_nil n [p] rest)
          have hrest := ih rest (by
            rw [List.length_append, List.length_cons] at hn
            omega)
          rw [List.flatMap_append, List.flatMap_cons, hself before hbefore, if_pos rfl, ← hrest,
            hmore]
          simp [List.intercalate, List.intersperse]
        next hcut =>
          rw [hself cs (cut?_char.2 hcut)]
          simp [List.intercalate]
  exact hall text.length text (Nat.le_refl _)

theorem afterPrefix?_append (ps cs : List Char) : afterPrefix? ps (ps ++ cs) = some cs := by
  induction ps with
  | nil => rfl
  | cons p ps ih =>
      rw [List.cons_append, afterPrefix?, if_pos (beq_self_eq_true p), ih]

/-- A text is cut at the first of a character. -/
theorem cut?_first {p : Char} {before : List Char} (h : p ∉ before) (rest : List Char) :
    cut? [p] (before ++ p :: rest) = some (before, rest) := by
  induction before with
  | nil =>
      rw [List.nil_append, cut?]
      simp [afterPrefix?]
  | cons c cs ih =>
      obtain ⟨hc, hcs⟩ := not_or.mp (mt List.mem_cons.mpr h)
      rw [List.cons_append, cut?, afterPrefix?, if_neg (by simpa using hc)]
      simp only [ih hcs, Option.map_some]

/-! ## Texts before and after -/

theorem of_afterPrefix? {pattern text rest : List Char}
    (h : afterPrefix? pattern text = some rest) : text = pattern ++ rest := by
  induction pattern generalizing text with
  | nil => exact Option.some.inj h
  | cons p ps ih =>
      cases text with
      | nil => cases h
      | cons c cs =>
          unfold afterPrefix? at h
          split at h
          next hc => rw [List.cons_append, ← eq_of_beq hc, ← ih h]
          next => cases h

/-- A cut takes one occurrence of the pattern out of the text. -/
theorem of_cut? {pattern text before rest : List Char}
    (h : cut? pattern text = some (before, rest)) : text = before ++ (pattern ++ rest) := by
  induction text generalizing before with
  | nil =>
      unfold cut? at h
      split at h
      next hempty =>
        cases h
        rw [List.isEmpty_iff.mp hempty]
        rfl
      next => cases h
  | cons c cs ih =>
      unfold cut? at h
      split at h
      next after hafter =>
        cases h
        rw [List.nil_append]
        exact of_afterPrefix? hafter
      next =>
        obtain ⟨⟨start, after⟩, hcut, hpair⟩ := Option.map_eq_some_iff.mp h
        cases hpair
        rw [List.cons_append, ← ih hcut]

/-- A text and what it becomes when a pattern is replaced at some places. -/
inductive Swapped (pattern replacement : List Char) : List Char → List Char → Prop
  | nil : Swapped pattern replacement [] []
  | kept (c : Char) {text image : List Char} (h : Swapped pattern replacement text image) :
      Swapped pattern replacement (c :: text) (c :: image)
  | swapped {text image : List Char} (h : Swapped pattern replacement text image) :
      Swapped pattern replacement (pattern ++ text) (replacement ++ image)

theorem Swapped.append {pattern replacement text image : List Char} (before : List Char)
    (h : Swapped pattern replacement text image) :
    Swapped pattern replacement (before ++ text) (before ++ image) := by
  induction before with
  | nil => exact h
  | cons c cs ih => exact ih.kept c

theorem Swapped.refl (pattern replacement text : List Char) :
    Swapped pattern replacement text text := by
  simpa using Swapped.nil.append text

theorem swapped_splitUpTo (n : Nat) (pattern replacement text : List Char) :
    Swapped pattern replacement text
      (List.intercalate replacement (splitUpTo n pattern text)) := by
  induction n generalizing text with
  | zero => simpa [splitUpTo, List.intercalate] using Swapped.refl pattern replacement text
  | succ n ih =>
      unfold splitUpTo
      split
      next before rest hcut =>
        obtain ⟨part, more, hmore⟩ := List.exists_cons_of_ne_nil (splitUpTo_ne_nil n pattern rest)
        have hrest := (ih rest).swapped.append before
        rw [of_cut? hcut, hmore]
        rw [hmore] at hrest
        simpa [List.intercalate, List.intersperse] using hrest
      next => simpa [List.intercalate] using Swapped.refl pattern replacement text

/-- Replacing replaces the pattern at some places and keeps all else. -/
theorem swapped_replaceAll {pattern : List Char} (hpattern : pattern ≠ [])
    (replacement text : List Char) :
    Swapped pattern replacement text (replaceAll pattern replacement text) := by
  unfold replaceAll splitAt
  rw [List.isEmpty_eq_false_iff.mpr hpattern]
  exact swapped_splitUpTo _ _ _ _

end FormScaffold.Text
