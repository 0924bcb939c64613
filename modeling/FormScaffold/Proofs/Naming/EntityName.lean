import FormScaffold.Naming.Words
import FormScaffold.Proofs.Naming.WordCuts
import FormScaffold.Proofs.Text.Replacing
import Mathlib.Data.Bool.AllAny
import FormScaffold.Proofs.Text.SettledCase

/-!
# What entity names are made of

An entity name starts with a letter whatever the project is called, so it is never blank.  What is
kept of the project's name has neither white space nor a dot, a slash or another sign that divides
texts, also where a character in upper case is written with several; nor does camel case make one.
Deriving a name again changes nothing as long as all of its characters are letters and digits;
upper-casing may have made combining marks, which are neither.
-/

namespace FormScaffold.Text

/-! ## Letters, digits and dividers -/

/-- Letters and digits divide nothing. -/
theorem isDivider_of_isAlphanumeric {c : Char} (h : isAlphanumeric c = true) :
    isDivider c = false := by
  have hruns : (alphabeticRuns ++ numericRuns).all (fun r => dividesNone r.first r.last) := by
    decide +kernel
  have hwithin : ∃ r ∈ alphabeticRuns ++ numericRuns, r.first ≤ c.toNat ∧ c.toNat ≤ r.last := by
    rcases Bool.or_eq_true_iff.mp h with hletter | hdigit
    · obtain ⟨r, hr, hbounds⟩ := CodeRun.within_of_anyCovers hletter
      exact ⟨r, List.mem_append_left _ hr, hbounds⟩
    · obtain ⟨r, hr, hbounds⟩ := CodeRun.within_of_anyCovers hdigit
      exact ⟨r, List.mem_append_right _ hr, hbounds⟩
  obtain ⟨r, hr, hfirst, hlast⟩ := hwithin
  exact isDivider_of_dividesNone (List.all_eq_true.mp hruns r hr) hfirst hlast

/-- No letter is white space. -/
theorem isBlank_of_isAlphabetic {c : Char} (h : isAlphabetic c = true) : isBlank c = false :=
  (Bool.or_eq_false_iff.mp (isDivider_of_isAlphanumeric (Bool.or_eq_true_iff.mpr (.inl h)))).1

/-- Characters that stand around names in texts and that names are kept free of. -/
def marks : List Char := ['/', '\n', '"', '\x7d', ',', ' ']

theorem isDivider_of_mem_marks {k : Char} (hk : k ∈ marks) : isDivider k = true :=
  List.all_eq_true.mp (by decide : marks.all isDivider = true) k hk

section Mark

variable {k : Char} (hk : k ∈ marks)
include hk

/-- Upper-casing makes no mark of another character, and neither does lower-casing. -/
theorem mark_not_mem_upperChars {c : Char} (hc : c ≠ k) : k ∉ upperChars c :=
  fun hmem => hc (eq_of_mem_upperChars hmem (isDivider_of_mem_marks hk)).symm

theorem mark_not_mem_lowerChars {c : Char} (hc : c ≠ k) : k ∉ lowerChars c :=
  fun hmem => hc (eq_of_mem_lowerChars hmem (isDivider_of_mem_marks hk)).symm

theorem mark_not_mem_lowerFrom {before cs : List Char} (hcs : k ∉ cs) :
    k ∉ lowerFrom before cs := by
  have hsigma : 'σ' ∉ marks ∧ 'ς' ∉ marks := by decide
  induction cs generalizing before with
  | nil => exact List.not_mem_nil
  | cons c rest ih =>
      obtain ⟨hc, hrest⟩ := not_or.mp (mt List.mem_cons.mpr hcs)
      unfold lowerFrom
      rw [List.mem_append, not_or]
      refine ⟨?_, ih hrest⟩
      split
      · intro hmem
        rw [List.mem_singleton.mp hmem] at hk
        unfold lowerSigma at hk
        split at hk
        · exact hsigma.2 hk
        · exact hsigma.1 hk
      · exact mark_not_mem_lowerChars hk (Ne.symm hc)

end Mark

end FormScaffold.Text

namespace FormScaffold.Naming

open FormScaffold.Text

/-! ## Entity names -/

/-- An entity name starts with a letter. -/
theorem entityOf_head (project : List Char) :
    ∃ c rest, entityOf project = c :: rest ∧ isAlphabetic c = true := by
  have hmark : isAlphabetic 'E' = true := by decide
  unfold entityOf
  cases hname : runsCapitalized true project with
  | nil => exact ⟨'E', _, rfl, hmark⟩
  | cons c rest =>
      simp only []
      by_cases hletter : isAlphabetic c = true
      · rw [if_pos hletter]
        exact ⟨c, rest, rfl, hletter⟩
      · rw [if_neg hletter]
        exact ⟨'E', _, rfl, hmark⟩

theorem isBlankText_entityName (project : String) : isBlankText (entityName project) = false := by
  obtain ⟨c, rest, hentity, hletter⟩ := entityOf_head project.toList
  rw [isBlankText_eq_false, entityName, String.toList_ofList, hentity]
  exact ⟨c, List.mem_cons_self, isBlank_of_isAlphabetic hletter⟩

/-- An entity name is what is kept of the project's name, perhaps after the mark. -/
theorem entityOf_cases (project : List Char) :
    entityOf project = runsCapitalized true project ∨
      entityOf project = entityMark ++ runsCapitalized true project := by
  unfold entityOf
  cases runsCapitalized true project with
  | nil => exact Or.inr (List.append_nil _).symm
  | cons c rest =>
      cases hletter : isAlphabetic c with
      | true => exact Or.inl (if_pos hletter)
      | false => exact Or.inr (if_neg (Bool.eq_false_iff.mp hletter))

theorem isDivider_of_mem_runsCapitalized {boundary : Bool} {cs : List Char} {d : Char}
    (h : d ∈ runsCapitalized boundary cs) : isDivider d = false := by
  induction cs generalizing boundary with
  | nil => cases h
  | cons c rest ih =>
      unfold runsCapitalized at h
      by_cases hc : isAlphanumeric c = true
      · rw [if_pos hc, List.mem_append] at h
        have hplain := isDivider_of_isAlphanumeric hc
        refine h.elim (fun hd => ?_) ih
        cases boundary with
        | false => exact List.mem_singleton.mp hd ▸ hplain
        | true =>
            cases hdivider : isDivider d with
            | false => rfl
            | true => rw [← hdivider, eq_of_mem_upperChars hd hdivider, hplain]
      · rw [if_neg hc] at h
        exact ih h

/-- No character of an entity name divides words, names or folders. -/
theorem isDivider_of_mem_entityOf {project : List Char} {d : Char} (h : d ∈ entityOf project) :
    isDivider d = false := by
  have hmark : ∀ d ∈ entityMark, isDivider d = false := List.all_iff_forall_prop.mp (by decide)
  rcases entityOf_cases project with hname | hname <;> rw [hname] at h
  · exact isDivider_of_mem_runsCapitalized h
  · exact (List.mem_append.mp h).elim (hmark d) isDivider_of_mem_runsCapitalized

section Mark

variable {k : Char} (hk : k ∈ marks)
include hk

/-- No entity name has a mark. -/
theorem mark_not_mem_entityName (project : String) : k ∉ (entityName project).toList := by
  intro hmem
  rw [entityName, String.toList_ofList] at hmem
  have hplain := isDivider_of_mem_entityOf hmem
  rw [isDivider_of_mem_marks hk] at hplain
  cases hplain

/-- Camel case makes no mark of other characters. -/
theorem mark_not_mem_camelCase {s : String} (hs : k ∉ s.toList) : k ∉ (camelCase s).toList := by
  have hwords : ∀ w ∈ words s.toList, k ∉ w := by
    intro w hw hmem
    have hletters : k ∈ letters s.toList := flatten_words s.toList ▸ List.mem_flatten_of_mem hw hmem
    exact hs (List.mem_filter.mp hletters).1
  have hpascal : k ∉ pascal s.toList := by
    intro hmem
    obtain ⟨w, hw, hmem⟩ := List.mem_flatMap.mp hmem
    cases w with
    | nil => cases hmem
    | cons c rest =>
        obtain ⟨hc, hrest⟩ := not_or.mp (mt List.mem_cons.mpr (hwords _ hw))
        rcases List.mem_append.mp hmem with hmem | hmem
        · exact mark_not_mem_upperChars hk (Ne.symm hc) hmem
        · exact mark_not_mem_lowerFrom hk hrest hmem
  unfold camelCase camel
  rw [String.toList_ofList]
  cases hchars : pascal s.toList with
  | nil => exact List.not_mem_nil
  | cons c rest =>
      rw [hchars] at hpascal
      obtain ⟨hc, hrest⟩ := not_or.mp (mt List.mem_cons.mpr hpascal)
      intro hmem
      rcases List.mem_append.mp hmem with hmem | hmem
      · exact mark_not_mem_lowerChars hk (Ne.symm hc) hmem
      · exact hrest hmem

end Mark

/-- No entity name has a slash. -/
theorem slash_not_mem_entityName (project : String) : '/' ∉ (entityName project).toList :=
  mark_not_mem_entityName (by decide) project

/-! ## Deriving again -/

theorem upperChars_head_runsCapitalized {cs rest : List Char} {d : Char}
    (h : runsCapitalized true cs = d :: rest) : upperChars d = [d] := by
  induction cs with
  | nil => cases h
  | cons c cs ih =>
      unfold runsCapitalized at h
      by_cases hc : isAlphanumeric c = true
      · rw [if_pos hc, if_pos rfl] at h
        obtain ⟨e, image, himage⟩ := List.exists_cons_of_ne_nil (upperChars_ne_nil c)
        rw [himage, List.cons_append] at h
        obtain ⟨rfl, -⟩ := List.cons.inj h
        exact upperChars_of_mem (himage ▸ List.mem_cons_self)
      · rw [if_neg hc] at h
        exact ih h

/-- The first letter of an entity name is kept by upper-casing. -/
theorem entityOf_starts (project : List Char) :
    ∃ c rest, entityOf project = c :: rest ∧ isAlphabetic c = true ∧ upperChars c = [c] := by
  obtain ⟨c, rest, hentity, hletter⟩ := entityOf_head project
  have hmark : upperChars 'E' = ['E'] := by decide
  refine ⟨c, rest, hentity, hletter, ?_⟩
  rcases entityOf_cases project with hname | hname <;> rw [hname] at hentity
  · exact upperChars_head_runsCapitalized hentity
  · obtain ⟨rfl, -⟩ := List.cons.inj hentity
    exact hmark

theorem runsCapitalized_false {cs : List Char} (h : ∀ c ∈ cs, isAlphanumeric c = true) :
    runsCapitalized false cs = cs := by
  induction cs with
  | nil => rfl
  | cons c rest ih =>
      obtain ⟨hc, hrest⟩ := List.forall_mem_cons.mp h
      rw [runsCapitalized, if_pos hc, ih hrest]
      rfl

/-- An entity name of letters and digits is its own entity name. -/
theorem entityOf_entityOf {project : List Char}
    (h : ∀ c ∈ entityOf project, isAlphanumeric c = true) :
    entityOf (entityOf project) = entityOf project := by
  obtain ⟨c, rest, hentity, hletter, hupper⟩ := entityOf_starts project
  rw [hentity] at h ⊢
  obtain ⟨hc, hrest⟩ := List.forall_mem_cons.mp h
  have hruns : runsCapitalized true (c :: rest) = c :: rest := by
    rw [runsCapitalized, if_pos hc, if_pos rfl, hupper, runsCapitalized_false hrest]
    rfl
  rw [entityOf, hruns]
  exact if_pos hletter

end FormScaffold.Naming
