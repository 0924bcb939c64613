import FormScaffold.Proofs.Naming.PluralForms

/-!
# Singular forms

The singular of a plural is the word again if the ending that was added is the one that is taken
off.  Both are chosen by endings of lower-cased words, and the two tables of endings differ; which
words come back is read off the endings of the lower-cased word alone, save that a final `y` has to
be lower-case and must not be the whole word.
-/

namespace FormScaffold.Naming

open FormScaffold.Text

/-! ## Tables of endings -/

theorem endsInAny_iff {endings : List (List Char)} {cs : List Char} :
    endsInAny endings cs = true ↔ ∃ e ∈ endings, e <:+ cs := by
  simp only [endsInAny, List.any_eq_true, List.isSuffixOf_iff_suffix]

/-- What has an ending of one table has one of another if the endings of the first have. -/
theorem endsInAny_of_endings {endings others : List (List Char)} {cs : List Char}
    (hothers : ∀ e ∈ endings, ∃ o ∈ others, o <:+ e) (h : endsInAny endings cs = true) :
    endsInAny others cs = true := by
  obtain ⟨e, he, hcs⟩ := endsInAny_iff.mp h
  obtain ⟨o, ho, hends⟩ := hothers e he
  exact endsInAny_iff.mpr ⟨o, ho, hends.trans hcs⟩

/-- Two tables exclude each other if none of their endings is an ending of the other. -/
theorem endsInAny_eq_false {endings others : List (List Char)} {cs : List Char}
    (hapart : ∀ e ∈ endings, ∀ o ∈ others, ¬ e <:+ o ∧ ¬ o <:+ e)
    (h : endsInAny endings cs = true) : endsInAny others cs = false := by
  refine Bool.eq_false_iff.mpr fun hother => ?_
  obtain ⟨e, he, hends⟩ := endsInAny_iff.mp h
  obtain ⟨o, ho, hends'⟩ := endsInAny_iff.mp hother
  rcases List.suffix_or_suffix_of_suffix hends hends' with hle | hle
  · exact (hapart e he o ho).1 hle
  · exact (hapart e he o ho).2 hle

/-- Endings that go on with the same letters are those of what stands before these letters. -/
theorem endsInAny_append (stems : List (List Char)) (before last : List Char) :
    endsInAny (stems.map (· ++ last)) (before ++ last) = endsInAny stems before := by
  rw [Bool.eq_iff_iff, endsInAny_iff, endsInAny_iff]
  simp only [List.mem_map, exists_exists_and_eq_and, List.suffix_append_self_iff]

theorem endsInAny_append_tables (endings others : List (List Char)) (cs : List Char) :
    endsInAny (endings ++ others) cs = (endsInAny endings cs || endsInAny others cs) :=
  List.any_append

theorem endsInAny_singleton (e cs : List Char) : endsInAny [e] cs = e.isSuffixOf cs := by
  rw [endsInAny, List.any_cons, List.any_nil, Bool.or_false]

/-- Endings after which `es` is added and taken off again. -/
def sibilantStems : List (List Char) :=
  [['s', 's'], ['s', 'h'], ['c', 'h'], ['x'], ['z'], ['u', 's']]

/-- Endings after which not only an added `s` is taken off but also the `e`. -/
def sibilantStemsInE : List (List Char) := sibilantStems.map (· ++ ['e'])

theorem sibilantPlural_append_es (before : List Char) :
    endsInAny sibilantPluralEndings (before ++ ['e', 's']) = endsInAny sibilantStems before :=
  endsInAny_append sibilantStems before ['e', 's']

theorem sibilantPlural_append_s (before : List Char) :
    endsInAny sibilantPluralEndings (before ++ ['s']) = endsInAny sibilantStemsInE before :=
  endsInAny_append sibilantStemsInE before ['s']

/-- The letters after which a final `s` is no plural ending. -/
def singularStems : List (List Char) := [['s'], ['u'], ['i'], ['a'], ['o']]

theorem singularEndings_append_s (before : List Char) :
    endsInAny singularEndings (before ++ ['s']) = endsInAny singularStems before :=
  endsInAny_append singularStems before ['s']

theorem endsInIes_append_s (before : List Char) :
    endsInIes (before ++ ['s']) = true ↔ ['i', 'e'] <:+ before ∧ before ≠ ['i', 'e'] := by
  unfold endsInIes
  rw [Bool.and_eq_true, decide_eq_true_eq, List.isSuffixOf_iff_suffix,
    show ['i', 'e', 's'] = ['i', 'e'] ++ ['s'] from rfl, List.suffix_append_self_iff, and_comm]
  refine and_congr_right fun ⟨stem, hstem⟩ => ?_
  subst hstem
  rw [ne_eq, List.append_left_eq_self, ← List.length_eq_zero_iff, List.length_append,
    List.length_append]
  simp only [List.length_cons, List.length_nil]
  omega

/-- Whatever the form of its sigmas, a lower-cased word has the endings of the same tables. -/
theorem endsInAny_congr {endings : List (List Char)} (he : ∀ e ∈ endings, e ⊆ endingLetters)
    {word ls others : List Char} (h : Lowering word ls) (hother : Lowering word others) :
    endsInAny endings ls = endsInAny endings others := by
  rw [Bool.eq_iff_iff, endsInAny_iff, endsInAny_iff]
  exact exists_congr fun e => and_congr_right fun hmem => Lowering.suffix_iff (he e hmem) h hother

/-! ## Singulars of plurals -/

/-- A plural ends in `s`, and unless it ends in `ies` not as a singular does. -/
theorem endings_of_looksPlural {lowered : List Char} (h : looksPlural lowered = true) :
    ['s'].isSuffixOf lowered = true ∧
      (endsInIes lowered = true ∨ endsInAny singularEndings lowered = false) := by
  constructor
  · obtain rfl | ⟨init, c, rfl⟩ := List.eq_nil_or_concat lowered
    · exact absurd h (by decide)
    · rw [List.concat_eq_append] at h ⊢
      obtain rfl := eq_of_looksPlural h
      exact List.isSuffixOf_iff_suffix.mpr (List.suffix_append _ _)
  · unfold looksPlural at h
    split at h
    next hies => exact Or.inl hies
    split at h
    · cases h
    next hsingular => exact Or.inr (Bool.eq_false_iff.mpr hsingular)

/-- A plural is not its own singular. -/
theorem singular_ne_of_looksPlural {word : List Char} (h : looksPlural (lower word) = true) :
    singular word ≠ word := by
  intro heq
  obtain ⟨hs, hplural⟩ := endings_of_looksPlural h
  have hlength := congrArg List.length heq
  unfold singular at hlength
  simp only [] at hlength
  split at hlength
  next hies =>
    have hle : 3 ≤ word.length :=
      length_le_of_isSuffixOf_lower ies_letters (isSuffixOf_of_endsInIes hies)
    simp only [List.length_append, List.length_take, List.length_singleton] at hlength
    omega
  next hies =>
    split at hlength
    next hes =>
      have hle : 2 ≤ word.length :=
        length_le_of_isSuffixOf_lower es_letters (isSuffixOf_of_sibilantPlural hes)
      rw [List.length_take] at hlength
      omega
    split at hlength
    · have hle : 1 ≤ word.length := length_le_of_isSuffixOf_lower s_letter hs
      rw [List.length_dropLast] at hlength
      omega
    next hkept =>
      rw [hs, hplural.resolve_left hies] at hkept
      exact hkept rfl

/-- A word in `y` comes back with a lower-case `y`, if there is anything before it. -/
theorem singular_dropLast_ies {word : List Char} (h : ['y'].isSuffixOf (lower word) = true) :
    singular (word.dropLast ++ ['i', 'e', 's']) = word ↔ ['y'] <:+ word ∧ 2 ≤ word.length := by
  obtain ⟨stem, last, rfl, hlast⟩ := (isSuffixOf_lower_iff y_letter).mp h
  obtain ⟨c, rfl⟩ := List.length_eq_one_iff.mp hlast.length_eq
  rw [List.dropLast_concat]
  obtain ⟨before, hbefore, hstem⟩ := lower_append_ending ies_letters stem
  cases stem with
  | nil =>
      have hsingular : singular ['i', 'e', 's'] = ['i', 'e'] := by decide
      simp [hsingular]
  | cons d stem =>
      have hies : endsInIes (lower (d :: stem ++ ['i', 'e', 's'])) = true := by
        have hpos : 0 < before.length :=
          List.length_pos_iff.mpr (hstem.ne_nil (List.cons_ne_nil _ _))
        rw [hbefore, endsInIes, Bool.and_eq_true, decide_eq_true_eq, List.isSuffixOf_iff_suffix]
        refine ⟨?_, List.suffix_append _ _⟩
        simp only [List.length_append, List.length_cons, List.length_nil]
        omega
      have hsingular : singular (d :: stem ++ ['i', 'e', 's']) = d :: stem ++ ['y'] := by
        rw [singular, if_pos hies, List.length_append]
        exact congrArg (· ++ ['y']) (List.take_left' rfl)
      rw [hsingular, List.append_right_inj]
      simp [eq_comm]

/-- A sibilant comes back if the `es` is taken for the end of such a plural. -/
theorem singular_append_es {word : List Char}
    (h : endsInAny sibilantEndings (lower word) = true) :
    singular (word ++ ['e', 's']) = word ↔ endsInAny sibilantStems (lower word) = true := by
  obtain ⟨before, hbefore, hword⟩ := lower_append_ending es_letters word
  have hies : endsInIes (before ++ ['e', 's']) = false := by
    refine Bool.eq_false_iff.mpr fun hies => ?_
    have hends := List.isSuffixOf_iff_suffix.mp (isSuffixOf_of_endsInIes hies)
    have hi : ['i'] <:+ before := List.suffix_append_self_iff.mp hends
    have hlast : endsInAny [['i']] (lower word) = false := endsInAny_eq_false (by decide) h
    rw [endsInAny_singleton, Bool.eq_false_iff, ne_eq, List.isSuffixOf_iff_suffix,
      Lowering.suffix_iff (by decide) (.lower word) hword] at hlast
    exact hlast hi
  have hstems : endsInAny sibilantStems before = endsInAny sibilantStems (lower word) :=
    endsInAny_congr (by decide) hword (.lower word)
  have hes : ['e', 's'] <:+ before ++ ['e', 's'] := List.suffix_append _ _
  have hs : ['s'].isSuffixOf (before ++ ['e', 's']) = true :=
    List.isSuffixOf_iff_suffix.mpr (List.IsSuffix.trans (by decide) hes)
  have hending : endsInAny [['e', 's']] (before ++ ['e', 's']) = true :=
    endsInAny_iff.mpr ⟨_, List.mem_singleton_self _, hes⟩
  have hsingular : endsInAny singularEndings (before ++ ['e', 's']) = false :=
    endsInAny_eq_false (by decide) hending
  unfold singular
  simp only [hbefore, hies, sibilantPlural_append_es, hstems, hs, hsingular]
  cases endsInAny sibilantStems (lower word) <;> simp

/-- All other words come back unless the `s` is taken for the end of a singular, or more than the
`s` for the end of a plural. -/
theorem singular_append_s {word : List Char} (hgiven : word ≠ []) :
    singular (word ++ ['s']) = word ↔
      endsInAny (singularStems ++ sibilantStemsInE) (lower word) = false ∧
        (['i', 'e'] <:+ lower word → lower word = ['i', 'e']) := by
  obtain ⟨before, hbefore, hword⟩ := lower_append_ending s_letter word
  have hies : endsInIes (before ++ ['s']) = true ↔
      ¬ (['i', 'e'] <:+ lower word → lower word = ['i', 'e']) := by
    rw [endsInIes_append_s, Lowering.suffix_iff (by decide) hword (.lower word), ne_eq,
      Lowering.eq_ending_iff (by decide) hword (.lower word)]
    exact Classical.not_imp.symm
  have hsingular : endsInAny singularStems before = endsInAny singularStems (lower word) :=
    endsInAny_congr (by decide) hword (.lower word)
  have hplural : endsInAny sibilantStemsInE before = endsInAny sibilantStemsInE (lower word) :=
    endsInAny_congr (by decide) hword (.lower word)
  have hs : ['s'].isSuffixOf (before ++ ['s']) = true :=
    List.isSuffixOf_iff_suffix.mpr (List.suffix_append _ _)
  have hpos : 0 < word.length := List.length_pos_iff.mpr hgiven
  rw [endsInAny_append_tables, Bool.or_eq_false_iff]
  unfold singular
  simp only [hbefore, sibilantPlural_append_s, singularEndings_append_s, hs, hsingular, hplural]
  split
  next hcut =>
    have hle : 3 ≤ (word ++ ['s']).length :=
      length_le_of_isSuffixOf_lower ies_letters (hbefore ▸ isSuffixOf_of_endsInIes hcut)
    refine iff_of_false (fun heq => ?_) fun h => hies.mp hcut h.2
    have hlength := congrArg List.length heq
    simp only [List.length_append, List.length_take, List.length_singleton] at hlength hle
    omega
  next hkept =>
    rw [hies, not_not] at hkept
    split
    next hcut =>
      refine iff_of_false (fun heq => ?_) fun h => Bool.false_ne_true (h.1.2.symm.trans hcut)
      have hlength := congrArg List.length heq
      rw [List.length_take, List.length_append, List.length_singleton] at hlength
      omega
    next hcut =>
      cases endsInAny singularStems (lower word) with
      | true => simp
      | false => simpa using ⟨Bool.eq_false_iff.mpr hcut, hkept⟩

/-- Endings of words that do not come back, but for the words in `y`. -/
def lostEndings : List (List Char) :=
  [['y']] ++ sibilantEndings ++ (singularStems ++ sibilantStemsInE)

theorem lostEndings_eq (lowered : List Char) :
    endsInAny lostEndings lowered =
      (['y'].isSuffixOf lowered || endsInAny sibilantEndings lowered ||
        endsInAny (singularStems ++ sibilantStemsInE) lowered) := by
  rw [lostEndings, endsInAny_append_tables, endsInAny_append_tables, endsInAny_singleton]

/-- No plural has an ending after which `es` is taken off again. -/
theorem sibilantStems_of_looksPlural {lowered : List Char} (h : looksPlural lowered = true) :
    endsInAny sibilantStems lowered = false := by
  obtain ⟨hs, hies | hplural⟩ := endings_of_looksPlural h
  · have hies := isSuffixOf_of_endsInIes hies
    rw [← endsInAny_singleton] at hies
    exact endsInAny_eq_false (by decide) hies
  · -- Such an ending is one in `s` of a singular, or it is not in `s`.
    refine Bool.eq_false_iff.mpr fun hstem => ?_
    rw [← endsInAny_singleton] at hs
    have hothers : endsInAny [['x'], ['z'], ['h']] lowered = false :=
      endsInAny_eq_false (by decide) hs
    have hcases : endsInAny (singularEndings ++ [['x'], ['z'], ['h']]) lowered = true :=
      endsInAny_of_endings (by decide) hstem
    rw [endsInAny_append_tables, hplural, hothers] at hcases
    exact Bool.false_ne_true hcases

/-- Which words are the singulars of their plurals. -/
theorem singular_plural_iff {word : List Char} (hword : word ≠ []) :
    singular (plural word) = word ↔
      (['y'] <:+ word ∧ 2 ≤ word.length) ∨ endsInAny sibilantStems (lower word) = true ∨
        endsInAny lostEndings (lower word) = false ∧
          (['i', 'e'] <:+ lower word → lower word = ['i', 'e']) := by
  have hempty : word.isEmpty = false := List.isEmpty_eq_false_iff.mpr hword
  have hlowered : ['y'] <:+ word → ['y'].isSuffixOf (lower word) = true := by
    rintro ⟨stem, hstem⟩
    exact (isSuffixOf_lower_iff y_letter).mpr ⟨stem, ['y'], hstem.symm, .self y_letter⟩
  have hsibilants : endsInAny sibilantStems (lower word) = true →
      endsInAny sibilantEndings (lower word) = true := endsInAny_of_endings (by decide)
  rw [lostEndings_eq]
  -- One case for each rule of the plural, tried in the order of the rules.
  cases hplural : looksPlural (lower word) with
  | true =>
      have hs := (endings_of_looksPlural hplural).1
      rw [← endsInAny_singleton] at hs
      have hy : ['y'].isSuffixOf (lower word) = false := by
        rw [← endsInAny_singleton]
        exact endsInAny_eq_false (by decide) hs
      have hsibilant : endsInAny sibilantEndings (lower word) = true :=
        endsInAny_of_endings (by decide) hs
      rw [plural_of_looksPlural hplural]
      refine iff_of_false (singular_ne_of_looksPlural hplural) ?_
      rw [sibilantStems_of_looksPlural hplural, hsibilant, hy]
      simpa using fun hy' => absurd (hlowered hy') (Bool.eq_false_iff.mp hy)
  | false =>
      cases hy : ['y'].isSuffixOf (lower word) with
      | true =>
          have hrule : plural word = word.dropLast ++ ['i', 'e', 's'] := by
            simp [plural, hempty, hplural, hy]
          have hstems : endsInAny sibilantStems (lower word) = false := by
            rw [← endsInAny_singleton] at hy
            exact endsInAny_eq_false (by decide) hy
          rw [hrule, singular_dropLast_ies hy, hstems]
          simp
      | false =>
          have hnone : ¬ ['y'] <:+ word := fun hy' =>
            absurd (hlowered hy') (Bool.eq_false_iff.mp hy)
          cases hsibilant : endsInAny sibilantEndings (lower word) with
          | true =>
              have hrule : plural word = word ++ ['e', 's'] := by
                simp [plural, hempty, hplural, hy, hsibilant]
              rw [hrule, singular_append_es hsibilant]
              simp [hnone]
          | false =>
              have hrule : plural word = word ++ ['s'] := by
                simp [plural, hempty, hplural, hy, hsibilant]
              have hstems : endsInAny sibilantStems (lower word) = false :=
                Bool.eq_false_iff.mpr fun h =>
                  absurd (hsibilants h) (Bool.eq_false_iff.mp hsibilant)
              rw [hrule, singular_append_s hword, hstems]
              simp [hnone]

/-! ## Words that come back -/

/-- The string ends in the letters of another. -/
def EndsIn (s ending : String) : Prop := ending.toList <:+ s.toList

instance (s ending : String) : Decidable (EndsIn s ending) :=
  inferInstanceAs (Decidable (ending.toList <:+ s.toList))

theorem endsIn_lowercase (s ending : String) :
    EndsIn (lowercase s) ending ↔ ending.toList <:+ lower s.toList := by
  rw [EndsIn, lowercase, String.toList_ofList]

/-- A lower-cased string has an ending of a table, given another table of the same endings. -/
theorem endsInAny_lower_iff (endings : List (List Char)) (s : String) (others : List String)
    (hothers : ∀ e ∈ endings, e ∈ others.map String.toList)
    (hendings : ∀ o ∈ others, o.toList ∈ endings) :
    endsInAny endings (lower s.toList) = true ↔ ∃ e ∈ others, EndsIn (lowercase s) e := by
  simp only [endsInAny_iff, endsIn_lowercase]
  constructor
  · rintro ⟨e, he, hends⟩
    obtain ⟨o, ho, rfl⟩ := List.mem_map.mp (hothers e he)
    exact ⟨o, ho, hends⟩
  · rintro ⟨o, ho, hends⟩
    exact ⟨o.toList, hendings o ho, hends⟩

/-- The singular of the plural of a word is the word again exactly if it ends in a lower-case `y`
that is not all of it, or if the lower-cased word ends in `ss`, `us`, `x`, `z`, `ch` or `sh`, or if
it ends in nothing of which a rule takes note, where `ie` is taken note of unless it is all of the
word. -/
theorem singularize_pluralize_iff {s : String} (hs : s ≠ "") :
    singularize (pluralize s) = s ↔
      (EndsIn s "y" ∧ 2 ≤ s.length) ∨
      (∃ e ∈ ["ss", "us", "x", "z", "ch", "sh"], EndsIn (lowercase s) e) ∨
      (∀ e ∈ ["y", "s", "x", "z", "ch", "sh", "a", "i", "o", "u", "sse", "she", "che", "xe", "ze",
          "use"], ¬ EndsIn (lowercase s) e) ∧
        (EndsIn (lowercase s) "ie" → lowercase s = "ie") := by
  have hword : s.toList ≠ [] := fun hnil => hs (String.toList_eq_nil_iff.mp hnil)
  have hkept := endsInAny_lower_iff sibilantStems s
    ["ss", "us", "x", "z", "ch", "sh"] (by decide) (by decide)
  have hlost := endsInAny_lower_iff lostEndings s
    ["y", "s", "x", "z", "ch", "sh", "a", "i", "o", "u", "sse", "she", "che", "xe", "ze", "use"]
    (by decide) (by decide)
  have hie : lowercase s = "ie" ↔ lower s.toList = ['i', 'e'] := by
    rw [← String.toList_inj, lowercase, String.toList_ofList]
    rfl
  have hplain := singular_plural_iff hword
  rw [hkept, ← Bool.not_eq_true, hlost] at hplain
  rw [hie, endsIn_lowercase, singularize, pluralize, String.toList_ofList,
    ← String.toList_inj, String.toList_ofList, hplain]
  simp only [EndsIn, String.length_toList, not_exists, not_and]
  rfl

theorem holiday_comes_back :
    "Holiday" ≠ "" ∧ EndsIn "Holiday" "y" ∧ singularize (pluralize "Holiday") = "Holiday" :=
  ⟨by decide, by decide, (singularize_pluralize_iff (by decide)).mpr
    (Or.inl ⟨by decide, by decide⟩)⟩

end FormScaffold.Naming
