import FormScaffold.Proofs.Naming.WordCuts
import FormScaffold.Proofs.Text.SettledCase

/-!
# Case styles of an identifier

Pascal case is cut into words that are capitalised already, so it is a fixed point of itself.
Snake and camel case lower-case the first characters of these words.  They are cut into the same
words but for that, so if lower-casing an upper-case character can be undone, they have the pascal
case of the identifier, and each style of a style is that of the identifier itself.
-/

namespace FormScaffold.Naming

open FormScaffold.Text

theorem isDivider_of_isSeparator {c : Char} (h : isSeparator c = true) : isDivider c = true := by
  unfold isSeparator at h
  simp only [Bool.or_eq_true, beq_iff_eq] at h
  rcases h with (rfl | rfl) | rfl <;> decide

/-- Upper-casing makes no separator of another character, and neither does lower-casing. -/
theorem isSeparator_of_mem_upperChars {c d : Char} (h : d ∈ upperChars c)
    (hc : isSeparator c = false) : isSeparator d = false := by
  cases hd : isSeparator d with
  | false => rfl
  | true => rw [← eq_of_mem_upperChars h (isDivider_of_isSeparator hd), hd] at hc; exact hc

theorem isSeparator_of_mem_lowerChars {c d : Char} (h : d ∈ lowerChars c)
    (hc : isSeparator c = false) : isSeparator d = false := by
  cases hd : isSeparator d with
  | false => rfl
  | true => rw [← eq_of_mem_lowerChars h (isDivider_of_isSeparator hd), hd] at hc; exact hc

/-! ## Capitalised words -/

/-- A text without capitals has no capital sigma, so it is lower-cased character by character. -/
theorem lowerFrom_of_small {before cs : List Char} (h : ∀ c ∈ cs, isUppercase c = false) :
    lowerFrom before cs = cs.flatMap lowerChars := by
  have hsigma : isUppercase 'Σ' = true := by decide
  induction cs generalizing before with
  | nil => rfl
  | cons c rest ih =>
      obtain ⟨hc, hrest⟩ := List.forall_mem_cons.mp h
      have hne : ¬ (c == 'Σ') = true := by
        rw [beq_iff_eq]
        rintro rfl
        rw [hsigma] at hc
        cases hc
      rw [lowerFrom, if_neg hne, ih hrest, List.flatMap_cons]

theorem capitalize_cons {c : Char} {rest : List Char} (h : ∀ d ∈ rest, isUppercase d = false) :
    capitalize (c :: rest) = upperChars c ++ rest.flatMap lowerChars := by
  rw [capitalize, lower, lowerFrom_of_small h]

/-- Capitalising keeps a word whose first character is capitalised and whose others have no
lower-case form. -/
theorem capitalize_eq_self {c : Char} {rest : List Char} (hc : upperChars c = [c])
    (hsmall : ∀ d ∈ rest, isUppercase d = false) (hrest : ∀ d ∈ rest, lowerChars d = [d]) :
    capitalize (c :: rest) = c :: rest := by
  rw [capitalize_cons hsmall, hc, List.flatMap_congr hrest, List.flatMap_singleton']
  rfl

/-- The characters of pascal case: no separators, and no lower-case forms but those of capitals. -/
theorem of_mem_pascal {cs : List Char} {d : Char} (h : d ∈ pascal cs) :
    isSeparator d = false ∧ (isUppercase d = false → lowerChars d = [d]) := by
  obtain ⟨w, hw, hd⟩ := List.mem_flatMap.mp h
  obtain ⟨c, rest, rfl, hc, hjoined, hsmall⟩ := (isWord_of_mem_words hw).exists_cons
  rw [capitalize_cons hsmall] at hd
  rcases List.mem_append.mp hd with hd | hd
  · refine ⟨isSeparator_of_mem_upperChars hd hc, fun hupper => ?_⟩
    exact ((isUppercase_or_uncased hd).resolve_left (by simp [hupper])).2
  · obtain ⟨e, he, hd⟩ := List.mem_flatMap.mp hd
    exact ⟨isSeparator_of_mem_lowerChars hd (hjoined e he), fun _ => lowerChars_of_mem hd⟩

/-- The first character of pascal case is capitalised. -/
theorem upperChars_head_pascal {cs rest : List Char} {d : Char} (h : pascal cs = d :: rest) :
    upperChars d = [d] := by
  unfold pascal at h
  cases hwords : words cs with
  | nil => rw [hwords] at h; cases h
  | cons w others =>
      obtain ⟨c, more, rfl, -⟩ :=
        (isWord_of_mem_words (hwords ▸ List.mem_cons_self : w ∈ words cs)).exists_cons
      obtain ⟨e, image, himage⟩ := List.exists_cons_of_ne_nil (upperChars_ne_nil c)
      rw [hwords, List.flatMap_cons, capitalize, himage] at h
      obtain rfl : e = d := (List.cons.inj h).1
      exact upperChars_of_mem (himage ▸ List.mem_cons_self : e ∈ upperChars c)

/-- Camel case has no separators either. -/
theorem isSeparator_of_mem_camel {cs : List Char} {d : Char} (h : d ∈ camel cs) :
    isSeparator d = false := by
  unfold camel at h
  cases hpascal : pascal cs with
  | nil => rw [hpascal] at h; cases h
  | cons c rest =>
      rw [hpascal] at h
      rcases List.mem_append.mp h with hd | hd
      · have hc : c ∈ pascal cs := hpascal ▸ List.mem_cons_self
        exact isSeparator_of_mem_lowerChars hd (of_mem_pascal hc).1
      · exact (of_mem_pascal (hpascal ▸ List.mem_cons_of_mem _ hd)).1

theorem blank_not_mem_pascalCase (s : String) : ' ' ∉ (pascalCase s).toList := by
  intro hmem
  rw [pascalCase, String.toList_ofList] at hmem
  exact absurd (of_mem_pascal hmem).1 (by decide)

theorem blank_not_mem_camelCase (s : String) : ' ' ∉ (camelCase s).toList := by
  intro hmem
  rw [camelCase, String.toList_ofList] at hmem
  exact absurd (isSeparator_of_mem_camel hmem) (by decide)

theorem letters_pascal (cs : List Char) : letters (pascal cs) = pascal cs :=
  List.filter_eq_self.mpr fun d hd => by rw [(of_mem_pascal hd).1]; rfl

theorem flatten_words_pascal (cs : List Char) : (words (pascal cs)).flatten = pascal cs := by
  rw [flatten_words, letters_pascal]

/-- The words of pascal case start with capitalised characters: the first one starts as all of it
does, and the others start in upper case. -/
theorem upperChars_of_word {cs rest : List Char} {c : Char} (h : c :: rest ∈ words (pascal cs)) :
    upperChars c = [c] := by
  cases hpascal : pascal cs with
  | nil => rw [hpascal] at h; cases h
  | cons d tail =>
      have hletters : ∀ e ∈ d :: tail, isSeparator e = false := fun e he =>
        (of_mem_pascal (hpascal ▸ he)).1
      obtain ⟨hd, htail⟩ := List.forall_mem_cons.mp hletters
      obtain ⟨more, others, hwords, hupper⟩ := words_eq_cons hd tail
      rw [hpascal, hwords] at h
      rcases List.mem_cons.mp h with hfirst | hother
      · obtain ⟨rfl, -⟩ := List.cons.inj hfirst
        exact upperChars_head_pascal hpascal
      · exact upperChars_of_isUppercase (hupper htail _ hother)

theorem mem_pascal_of_word {cs w : List Char} (h : w ∈ words (pascal cs)) {c : Char} (hc : c ∈ w) :
    c ∈ pascal cs :=
  flatten_words_pascal cs ▸ List.mem_flatten_of_mem h hc

/-- The words of pascal case are capitalised. -/
theorem capitalize_of_word {cs w : List Char} (h : w ∈ words (pascal cs)) : capitalize w = w := by
  obtain ⟨c, rest, rfl, -, -, hsmall⟩ := (isWord_of_mem_words h).exists_cons
  refine capitalize_eq_self (upperChars_of_word h) hsmall fun d hd => ?_
  exact (of_mem_pascal (mem_pascal_of_word h (List.mem_cons_of_mem _ hd))).2 (hsmall d hd)

theorem flatMap_eq_flatten {ws : List (List Char)} {f : List Char → List Char}
    (h : ∀ w ∈ ws, f w = w) : ws.flatMap f = ws.flatten := by
  rw [List.flatMap_congr h, List.flatMap_id']

theorem pascal_pascal (cs : List Char) : pascal (pascal cs) = pascal cs :=
  (flatMap_eq_flatten fun _ => capitalize_of_word).trans (flatten_words_pascal cs)

/-- Pascal case of pascal case is the same, for every string. -/
theorem pascalCase_idempotent (s : String) : pascalCase (pascalCase s) = pascalCase s := by
  rw [pascalCase, pascalCase, String.toList_ofList, pascal_pascal]

example : pascalCase "ßo_1a ŉx" = "SSo1aʼNx" := by decide +kernel

/-! ## Snake and camel case -/

/-- A character that lower- and then upper-casing keeps has a single lower-case form. -/
theorem lowerChars_of_folded {c : Char} (h : folded c = [c]) :
    ∃ d, lowerChars c = [d] ∧ upperChars d = [c] := by
  unfold folded at h
  cases hlower : lowerChars c with
  | nil => rw [hlower] at h; cases h
  | cons d more =>
      rw [hlower, List.flatMap_cons] at h
      obtain ⟨e, image, himage⟩ := List.exists_cons_of_ne_nil (upperChars_ne_nil d)
      rw [himage, List.cons_append] at h
      obtain ⟨rfl, hrest⟩ := List.cons.inj h
      obtain ⟨rfl, hmore⟩ := List.append_eq_nil_iff.mp hrest
      cases more with
      | nil => exact ⟨d, rfl, himage⟩
      | cons d' more => exact absurd (List.append_eq_nil_iff.mp hmore).1 (upperChars_ne_nil d')

/-- Every capital of the pascal case is the upper-case form of its lower-case form. -/
def CapitalsReturn (cs : List Char) : Prop :=
  ∀ c ∈ pascal cs, isUppercase c = true → folded c = [c]

instance (cs : List Char) : Decidable (CapitalsReturn cs) :=
  List.decidableBAll (fun c => isUppercase c = true → folded c = [c]) (pascal cs)

/-- Lower-casing the first character of a capitalised word leaves a word with the same capitals. -/
theorem uncapitalize_of_word {cs w : List Char} (hcs : CapitalsReturn cs)
    (h : w ∈ words (pascal cs)) : IsWord (uncapitalize w) ∧ capitalize (uncapitalize w) = w := by
  obtain ⟨c, rest, rfl, hc, hjoined, hsmall⟩ := (isWord_of_mem_words h).exists_cons
  have hmem : c ∈ pascal cs := mem_pascal_of_word h List.mem_cons_self
  have hfolded : folded c = [c] := by
    cases hupper : isUppercase c with
    | true => exact hcs c hmem hupper
    | false =>
        rw [folded, (of_mem_pascal hmem).2 hupper, List.flatMap_singleton, upperChars_of_word h]
  obtain ⟨d, hlower, hupper⟩ := lowerChars_of_folded hfolded
  have hword : uncapitalize (c :: rest) = d :: rest := by rw [uncapitalize, hlower]; rfl
  have hcapital := capitalize_of_word h
  rw [capitalize_cons hsmall, upperChars_of_word h] at hcapital
  rw [hword]
  refine ⟨⟨List.cons_ne_nil _ _, List.forall_mem_cons.mpr ⟨?_, hjoined⟩, hsmall⟩, ?_⟩
  · exact isSeparator_of_mem_lowerChars (hlower ▸ List.mem_cons_self : d ∈ lowerChars c) hc
  · rw [capitalize_cons hsmall, hupper, hcapital]

/-- Without capitals no underscore is put in. -/
theorem underscored_of_small {cs : List Char} (h : ∀ c ∈ cs, isUppercase c = false) :
    underscored cs = cs := by
  refine Eq.trans (List.flatMap_congr fun c hc => ?_) (List.flatMap_singleton' cs)
  rw [h c hc]
  rfl

theorem underscored_append (cs ds : List Char) :
    underscored (cs ++ ds) = underscored cs ++ underscored ds :=
  List.flatMap_append

/-- An underscore is put before a word that starts in upper case, and nowhere else. -/
theorem underscored_word {w : List Char} (hw : IsWord w) (hupper : startsUpper w = true) :
    underscored w = '_' :: uncapitalize w := by
  obtain ⟨c, rest, rfl, -, -, hsmall⟩ := hw.exists_cons
  have hc : isUppercase c = true := hupper
  have hrest : underscored (c :: rest) = ('_' :: lowerChars c) ++ underscored rest := by
    rw [underscored, List.flatMap_cons, if_pos hc]
    rfl
  rw [hrest, underscored_of_small hsmall]
  rfl

theorem underscored_flatten {ws : List (List Char)}
    (h : ∀ w ∈ ws, IsWord w ∧ startsUpper w = true) :
    underscored ws.flatten = (ws.map uncapitalize).flatMap fun w => ['_'] ++ w := by
  induction ws with
  | nil => rfl
  | cons w ws ih =>
      obtain ⟨⟨hw, hupper⟩, hws⟩ := List.forall_mem_cons.mp h
      rw [List.flatten_cons, underscored_append, underscored_word hw hupper, ih hws]
      rfl

/-- The words of an identifier in pascal case: none, or a first one and others that start in upper
case. -/
inductive Worded (cs : List Char) : Prop
  | none (hpascal : pascal cs = [])
  | some {c : Char} {rest : List Char} {others : List (List Char)}
      (hwords : words (pascal cs) = (c :: rest) :: others)
      (hpascal : pascal cs = c :: (rest ++ others.flatten))
      (hothers : ∀ w ∈ others, startsUpper w = true)

theorem worded (cs : List Char) : Worded cs := by
  cases hpascal : pascal cs with
  | nil => exact .none hpascal
  | cons c tail =>
      have hletters : ∀ d ∈ c :: tail, isSeparator d = false := fun d hd =>
        (of_mem_pascal (hpascal ▸ hd)).1
      obtain ⟨hc, htail⟩ := List.forall_mem_cons.mp hletters
      obtain ⟨rest, others, hwords, hupper⟩ := words_eq_cons hc tail
      rw [← hpascal] at hwords
      refine .some hwords ?_ (hupper htail)
      rw [← flatten_words_pascal, hwords]
      rfl

/-- Camel case joins the words of pascal case, the first with its first character lower-cased. -/
theorem camel_eq {cs rest : List Char} {c : Char} {others : List (List Char)}
    (hpascal : pascal cs = c :: (rest ++ others.flatten)) :
    camel cs = uncapitalize (c :: rest) ++ others.flatMap fun w => [] ++ w := by
  have hjoined : (others.flatMap fun w => [] ++ w) = others.flatten :=
    flatMap_eq_flatten fun _ _ => rfl
  rw [camel, hpascal, hjoined, uncapitalize, uncapitalize, List.append_assoc]

section Words

variable {cs rest : List Char} {c : Char} {others : List (List Char)}
  (hwords : words (pascal cs) = (c :: rest) :: others)
  (hpascal : pascal cs = c :: (rest ++ others.flatten))
  (hothers : ∀ w ∈ others, startsUpper w = true)
include hwords hpascal hothers

/-- Snake case joins the words of pascal case with underscores, each with its first character
lower-cased. -/
theorem snake_eq : snake cs =
    uncapitalize (c :: rest) ++ (others.map uncapitalize).flatMap fun w => ['_'] ++ w := by
  have hmem : ∀ w ∈ (c :: rest) :: others, w ∈ words (pascal cs) := fun w hw => hwords ▸ hw
  obtain ⟨hfirst, hlater⟩ := List.forall_mem_cons.mp hmem
  have hlower : (if isUppercase c = true then lowerChars c else [c]) = lowerChars c := by
    split
    · rfl
    · rename_i hupper
      have hc : c ∈ pascal cs := mem_pascal_of_word hfirst List.mem_cons_self
      exact ((of_mem_pascal hc).2 (Bool.eq_false_iff.mpr hupper)).symm
  have hsmall : ∀ d ∈ rest, isUppercase d = false := (isWord_of_mem_words hfirst).small
  have hunderscored := underscored_flatten fun w hw =>
    ⟨isWord_of_mem_words (hlater w hw), hothers w hw⟩
  unfold snake
  rw [hpascal]
  simp only [hlower]
  rw [underscored_append, underscored_of_small hsmall, hunderscored, uncapitalize,
    List.append_assoc]

variable (hcs : CapitalsReturn cs)
include hcs

/-- Snake case is cut into the words of pascal case, each with its first character lower-cased. -/
theorem words_snake : words (snake cs) = (words (pascal cs)).map uncapitalize := by
  have hword : ∀ w ∈ (c :: rest) :: others, IsWord (uncapitalize w) :=
    fun w hw => (uncapitalize_of_word hcs (hwords ▸ hw)).1
  obtain ⟨hfirst, hlater⟩ := List.forall_mem_cons.mp hword
  have hbetween : ∀ c ∈ ['_'], isSeparator c = true := List.forall_mem_singleton.mpr rfl
  rw [snake_eq hwords hpascal hothers, hwords, List.map_cons,
    words_joined hbetween hfirst (List.forall_mem_map.mpr fun w hw => ⟨hlater w hw, rfl⟩)]

/-- Camel case is cut into the words of pascal case, the first with its first character
lower-cased. -/
theorem words_camel : words (camel cs) = uncapitalize (c :: rest) :: others := by
  have hmem : ∀ w ∈ (c :: rest) :: others, w ∈ words (pascal cs) := fun w hw => hwords ▸ hw
  obtain ⟨hfirst, hlater⟩ := List.forall_mem_cons.mp hmem
  have hanew : ∀ w ∈ others, IsWord w ∧ startsAnew ([] ++ w) = true := by
    intro w hw
    have hword := isWord_of_mem_words (hlater w hw)
    obtain ⟨d, more, rfl, -⟩ := hword.exists_cons
    have hupper : isUppercase d = true := hothers _ hw
    exact ⟨hword, Bool.or_eq_true_iff.mpr (Or.inr hupper)⟩
  rw [camel_eq hpascal,
    words_joined (by simp) (uncapitalize_of_word hcs hfirst).1 hanew]

end Words

/-- Snake case keeps pascal case. -/
theorem pascal_snake {cs : List Char} (hcs : CapitalsReturn cs) :
    pascal (snake cs) = pascal cs := by
  cases worded cs with
  | none hpascal =>
      rw [snake, hpascal]
      rfl
  | some hwords hpascal hothers =>
      have hcapital : ∀ w ∈ words (pascal cs), capitalize (uncapitalize w) = w :=
        fun w hw => (uncapitalize_of_word hcs hw).2
      have hcut := words_snake hwords hpascal hothers hcs
      rw [pascal, hcut, List.flatMap_map, flatMap_eq_flatten hcapital, flatten_words_pascal]

/-- Camel case keeps pascal case. -/
theorem pascal_camel {cs : List Char} (hcs : CapitalsReturn cs) :
    pascal (camel cs) = pascal cs := by
  cases worded cs with
  | none hpascal =>
      rw [camel, hpascal]
      rfl
  | @some c rest others hwords hpascal hothers =>
      have hmem : ∀ w ∈ (c :: rest) :: others, w ∈ words (pascal cs) := fun w hw => hwords ▸ hw
      obtain ⟨hfirst, hlater⟩ := List.forall_mem_cons.mp hmem
      have hcapital := flatMap_eq_flatten fun w hw => capitalize_of_word (hlater w hw)
      have hcut := words_camel hwords hpascal hothers hcs
      rw [pascal, hcut, List.flatMap_cons, (uncapitalize_of_word hcs hfirst).2, hcapital, hpascal]
      rfl

/-- Snake and camel case depend on pascal case only. -/
theorem snake_congr {cs ds : List Char} (h : pascal cs = pascal ds) : snake cs = snake ds := by
  rw [snake, snake, h]

theorem camel_congr {cs ds : List Char} (h : pascal cs = pascal ds) : camel cs = camel ds := by
  rw [camel, camel, h]

/-! ## Identifiers of ASCII -/

theorem caseCodes_ascii : ∀ n ∈ List.range 128,
    (upperCodes n ++ lowerCodes n).all (fun m => decide (m < 128)) = true ∧
    (isUppercaseCode n = true → foldedCodes n = [n]) := by
  decide +kernel

/-- Both case forms of a character of ASCII are in ASCII. -/
theorem ascii_of_mem_caseChars {c d : Char} (hc : c.toNat < 128)
    (h : d ∈ upperChars c ∨ d ∈ lowerChars c) : d.toNat < 128 := by
  have hall := (caseCodes_ascii c.toNat (List.mem_range.mpr hc)).1
  have hmem : d.toNat ∈ upperCodes c.toNat ++ lowerCodes c.toNat :=
    List.mem_append.mpr (h.imp toNat_mem_upperCodes toNat_mem_lowerCodes)
  exact of_decide_eq_true (List.all_eq_true.mp hall _ hmem)

theorem folded_of_ascii {c : Char} (hc : c.toNat < 128) (hupper : isUppercase c = true) :
    folded c = [c] := by
  have hcode := (caseCodes_ascii c.toNat (List.mem_range.mpr hc)).2 (isUppercase_eq c ▸ hupper)
  have hfolded := folded_ofNat (isCode_toNat c)
  rw [hcode, List.map_singleton, Char.ofNat_toNat] at hfolded
  exact hfolded

/-- Pascal case of a text in ASCII is in ASCII. -/
theorem ascii_of_mem_pascal {cs : List Char} (hcs : ∀ c ∈ cs, c.toNat < 128) {d : Char}
    (h : d ∈ pascal cs) : d.toNat < 128 := by
  obtain ⟨w, hw, hd⟩ := List.mem_flatMap.mp h
  have hword : ∀ c ∈ w, c.toNat < 128 := fun c hc => by
    have hletter : c ∈ letters cs := flatten_words cs ▸ List.mem_flatten_of_mem hw hc
    exact hcs c (List.mem_filter.mp hletter).1
  obtain ⟨c, rest, rfl, -, -, hsmall⟩ := (isWord_of_mem_words hw).exists_cons
  rw [capitalize_cons hsmall] at hd
  rcases List.mem_append.mp hd with hd | hd
  · exact ascii_of_mem_caseChars (hword c List.mem_cons_self) (Or.inl hd)
  · obtain ⟨e, he, hd⟩ := List.mem_flatMap.mp hd
    exact ascii_of_mem_caseChars (hword e (List.mem_cons_of_mem _ he)) (Or.inr hd)

theorem capitalsReturn_of_ascii {cs : List Char} (hcs : ∀ c ∈ cs, c.toNat < 128) :
    CapitalsReturn cs :=
  fun _ hc => folded_of_ascii (ascii_of_mem_pascal hcs hc)

/-! ## Identifiers as strings -/

/-- If every capital of an identifier in pascal case is the upper-case form of its lower-case form,
which is so in ASCII, then its snake and camel case have its pascal case, and snake and camel case
of any of its styles are its own. -/
theorem case_styles_agree (s : String) :
    (isAscii s = true → CapitalsReturn s.toList) ∧
    (CapitalsReturn s.toList →
      pascalCase (snakeCase s) = pascalCase s ∧ pascalCase (camelCase s) = pascalCase s ∧
      snakeCase (pascalCase s) = snakeCase s ∧ snakeCase (camelCase s) = snakeCase s ∧
      snakeCase (snakeCase s) = snakeCase s ∧
      camelCase (pascalCase s) = camelCase s ∧ camelCase (camelCase s) = camelCase s ∧
      camelCase (snakeCase s) = camelCase s) := by
  constructor
  · intro hascii
    exact capitalsReturn_of_ascii fun c hc => by simpa using List.all_eq_true.mp hascii c hc
  · intro hcs
    -- Each style is computed from pascal case, and all styles have the same.
    have hsnake := pascal_snake hcs
    have hcamel := pascal_camel hcs
    have hpascal := pascal_pascal s.toList
    simp only [pascalCase, snakeCase, camelCase, String.toList_ofList]
    rw [hsnake, hcamel, snake_congr hpascal, snake_congr hcamel, snake_congr hsnake,
      camel_congr hpascal, camel_congr hcamel, camel_congr hsnake]
    exact ⟨rfl, rfl, rfl, rfl, rfl, rfl, rfl, rfl⟩

theorem schoolName_styles :
    (isAscii "2nd_formName" = true ∧ CapitalsReturn "2nd_formName".toList) ∧
    CapitalsReturn "ŉext-ÉCOLE 2ß_ǅx".toList ∧
    snakeCase "ŉext-ÉCOLE 2ß_ǅx" = "ʼ_next_é_c_o_l_e2ß_ǆx" ∧
    pascalCase (snakeCase "ŉext-ÉCOLE 2ß_ǅx") = pascalCase "ŉext-ÉCOLE 2ß_ǅx" := by
  have hascii : isAscii "2nd_formName" = true := by decide
  have hcapitals : CapitalsReturn "ŉext-ÉCOLE 2ß_ǅx".toList := by decide +kernel
  exact ⟨⟨hascii, (case_styles_agree _).1 hascii⟩, hcapitals, by decide +kernel,
    ((case_styles_agree _).2 hcapitals).1⟩

end FormScaffold.Naming
