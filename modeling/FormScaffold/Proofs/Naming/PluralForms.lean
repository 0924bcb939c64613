import FormScaffold.Naming.Plural
import FormScaffold.Proofs.Text.LoweredEndings
import Mathlib.Data.Bool.AllAny

/-!
# Plural forms

Words are stored in UTF-8, and endings are cut off by their number of bytes.  An ending is
recognised in the lower-cased word, which may be longer or shorter than the word itself; the
endings that are cut off nevertheless are whole characters of one byte each.

A word whose plural is no plural to the rules themselves takes another ending each time.  Which
words these are is read off the last character of the lower-cased word.
-/

namespace FormScaffold.Naming

open FormScaffold.Text

/-! ## Cutting bytes off -/

/-- The text without its last `n` bytes; none if it has fewer, or if a character spans the place. -/
def cutEnd? (n : Nat) (s : String) : Option String :=
  if h : n ≤ s.utf8ByteSize ∧ (⟨s.utf8ByteSize - n⟩ : String.Pos.Raw).IsValid s then
    some (s.sliceTo (s.pos ⟨s.utf8ByteSize - n⟩ h.2)).copy
  else none

/-- Plural of a word, by its bytes. -/
def pluralBytes? (s : String) : Option String :=
  let lowered := lower s.toList
  if s.toList.isEmpty then some ""
  else if looksPlural lowered then some s
  else if ['y'].isSuffixOf lowered then (cutEnd? 1 s).map (· ++ "ies")
  else if endsInAny sibilantEndings lowered then some (s ++ "es")
  else some (s ++ "s")

/-- Singular of a word, by its bytes. -/
def singularBytes? (s : String) : Option String :=
  let lowered := lower s.toList
  if decide (3 < (lowercase s).utf8ByteSize) && ['i', 'e', 's'].isSuffixOf lowered then
    (cutEnd? 3 s).map (· ++ "y")
  else if endsInAny sibilantPluralEndings lowered then cutEnd? 2 s
  else if ['s'].isSuffixOf lowered && !endsInAny singularEndings lowered then cutEnd? 1 s
  else some s

/-- A whole ending is cut off by its number of bytes. -/
theorem cutEnd?_append (s last : String) : cutEnd? last.utf8ByteSize (s ++ last) = some s := by
  have hsize : (s ++ last).utf8ByteSize - last.utf8ByteSize = s.utf8ByteSize := by
    rw [String.utf8ByteSize_append, Nat.add_sub_cancel]
  have hplace : (⟨(s ++ last).utf8ByteSize - last.utf8ByteSize⟩ : String.Pos.Raw) =
      s.rawEndPos := by
    rw [hsize]
    rfl
  have hvalid : (⟨(s ++ last).utf8ByteSize - last.utf8ByteSize⟩ : String.Pos.Raw).IsValid
      (s ++ last) :=
    String.Pos.Raw.isValid_iff_exists_append.mpr ⟨s, last, rfl, hplace⟩
  have hle : last.utf8ByteSize ≤ (s ++ last).utf8ByteSize := by
    rw [String.utf8ByteSize_append]
    exact Nat.le_add_left _ _
  have hsplits : ((s ++ last).pos _ hvalid).Splits s last := ⟨rfl, hplace⟩
  rw [cutEnd?, dif_pos ⟨hle, hvalid⟩, hsplits.copy_sliceTo_eq]

theorem y_letter : ['y'] ⊆ endingLetters := by decide

theorem s_letter : ['s'] ⊆ endingLetters := by decide

theorem es_letters : ['e', 's'] ⊆ endingLetters := by decide

theorem ies_letters : ['i', 'e', 's'] ⊆ endingLetters := by decide

/-- A word whose lower-cased form has such an ending loses as many characters as bytes. -/
theorem cutEnd?_of_isSuffixOf {ending : List Char} {s : String}
    (he : ending ⊆ endingLetters) (h : ending.isSuffixOf (lower s.toList) = true) :
    cutEnd? ending.length s =
      some (String.ofList (s.toList.take (s.toList.length - ending.length))) := by
  obtain ⟨stem, last, hs, hlast⟩ := (isSuffixOf_lower_iff he).mp h
  have hstring : s = String.ofList stem ++ String.ofList last := by
    rw [← String.ofList_append, ← hs, String.ofList_toList]
  have htake : s.toList.take (s.toList.length - ending.length) = stem := by
    rw [hs, ← hlast.length_eq, List.length_append, Nat.add_sub_cancel, List.take_left]
  rw [htake, hstring, ← hlast.utf8ByteSize_eq he, cutEnd?_append]

/-- Something stands before a final `ies` if the text has more bytes than these letters. -/
theorem endsInIes_eq_bytes {cs : List Char} :
    endsInIes cs =
      (decide (3 < (String.ofList cs).utf8ByteSize) && ['i', 'e', 's'].isSuffixOf cs) := by
  unfold endsInIes
  cases hies : ['i', 'e', 's'].isSuffixOf cs with
  | false => rw [Bool.and_false, Bool.and_false]
  | true =>
      obtain ⟨stem, rfl⟩ := List.isSuffixOf_iff_suffix.mp hies
      have hending : (String.ofList ['i', 'e', 's']).utf8ByteSize = 3 := by decide
      have hempty : (String.ofList stem).utf8ByteSize = 0 ↔ stem.length = 0 := by
        simp [String.utf8ByteSize_eq_zero_iff]
      rw [String.ofList_append, String.utf8ByteSize_append, hending, List.length_append]
      congr 2
      simp only [List.length_cons, List.length_nil, eq_iff_iff]
      omega

theorem isSuffixOf_of_endsInIes {cs : List Char} (h : endsInIes cs = true) :
    ['i', 'e', 's'].isSuffixOf cs = true :=
  (Bool.and_eq_true_iff.mp h).2

/-- All plurals of sibilants end in `es`. -/
theorem isSuffixOf_of_sibilantPlural {cs : List Char}
    (h : endsInAny sibilantPluralEndings cs = true) : ['e', 's'].isSuffixOf cs = true := by
  have hes : ∀ e ∈ sibilantPluralEndings, ['e', 's'] <:+ e := by decide
  obtain ⟨e, he, hcs⟩ := List.any_eq_true.mp h
  exact List.isSuffixOf_iff_suffix.mpr ((hes e he).trans (List.isSuffixOf_iff_suffix.mp hcs))

/-- No plural is made by cutting into a character or past the start of the word. -/
theorem pluralBytes?_eq (s : String) : pluralBytes? s = some (pluralize s) := by
  simp only [pluralBytes?, pluralize, plural]
  split
  · rfl
  split
  · rw [String.ofList_toList]
  split
  next hy =>
    have hcut : cutEnd? 1 s = some (String.ofList (s.toList.take (s.toList.length - 1))) :=
      cutEnd?_of_isSuffixOf y_letter hy
    rw [hcut, Option.map_some, List.dropLast_eq_take, String.ofList_append]
  split
  · rw [String.ofList_append, String.ofList_toList]
  · rw [String.ofList_append, String.ofList_toList]

/-- Nor is a singular. -/
theorem singularBytes?_eq (s : String) : singularBytes? s = some (singularize s) := by
  have hies : (decide (3 < (lowercase s).utf8ByteSize) &&
      ['i', 'e', 's'].isSuffixOf (lower s.toList)) = endsInIes (lower s.toList) :=
    endsInIes_eq_bytes.symm
  simp only [singularBytes?, singularize, singular]
  rw [hies]
  split
  next hies =>
    have hcut : cutEnd? 3 s = some (String.ofList (s.toList.take (s.toList.length - 3))) :=
      cutEnd?_of_isSuffixOf ies_letters (isSuffixOf_of_endsInIes hies)
    rw [hcut, Option.map_some, String.ofList_append]
  split
  next hes =>
    exact cutEnd?_of_isSuffixOf es_letters (isSuffixOf_of_sibilantPlural hes)
  split
  next hs =>
    rw [List.dropLast_eq_take]
    exact cutEnd?_of_isSuffixOf s_letter (Bool.and_eq_true_iff.mp hs).1
  · rw [String.ofList_toList]

/-! ## Plurals of plurals -/

/-- The letters after which a further `s` makes a plural that is kept. -/
def keepsPlural (c : Char) : Bool := isAlphabetic c && !(['a', 'i', 'o', 'u'].contains c)

theorem isSuffixOf_pair (init : List Char) (a b : Char) :
    [a, 's'].isSuffixOf (init ++ [b, 's']) = (a == b) := by
  simp [List.isSuffixOf, List.isPrefixOf]

/-- A final `s` marks a plural after an `e` and after every letter but the other vowels and `s`. -/
theorem looksPlural_snoc (init : List Char) (b : Char) :
    looksPlural (init ++ [b, 's']) = (b == 'e' || (isAlphabetic b && !isVowelOrS b)) := by
  have hies (h : endsInIes (init ++ [b, 's']) = true) : 'e' = b := by
    have hsuffix := isSuffixOf_of_endsInIes h
    simp only [List.isSuffixOf, List.reverse_cons, List.reverse_append, List.reverse_nil,
      List.nil_append, List.cons_append, List.isPrefixOf, Bool.and_eq_true, beq_iff_eq] at hsuffix
    exact hsuffix.2.1
  have hsingular : endsInAny singularEndings (init ++ [b, 's']) =
      ['s', 'u', 'i', 'a', 'o'].any (· == b) := by
    simp only [endsInAny, singularEndings, List.any_cons, List.any_nil, isSuffixOf_pair]
  have hreverse : (init ++ [b, 's']).reverse = 's' :: b :: init.reverse := by simp
  grind [looksPlural, isVowelOrS, isSuffixOf_pair]

theorem looksPlural_of_ne {init : List Char} {b : Char} (hb : b ≠ 's') :
    looksPlural (init ++ [b, 's']) = keepsPlural b := by
  have he : isAlphabetic 'e' = true := by decide
  rw [looksPlural_snoc]
  grind [keepsPlural, isVowelOrS]

/-- A plural ends in `s`. -/
theorem eq_of_looksPlural {init : List Char} {c : Char} (h : looksPlural (init ++ [c]) = true) :
    c = 's' := by
  by_contra hc
  have hc' : 's' ≠ c := fun heq => hc heq.symm
  simp [looksPlural, endsInIes, endsInAny, singularEndings, List.isSuffixOf, hc', hc] at h

theorem plural_of_looksPlural {word : List Char} (h : looksPlural (lower word) = true) :
    plural word = word := by
  cases word with
  | nil => rfl
  | cons c cs => simp [plural, h]

/-- All other words grow. -/
theorem looksPlural_of_plural_eq {word : List Char} (hword : word ≠ [])
    (h : plural word = word) : looksPlural (lower word) = true := by
  by_contra hplural
  have hpos : 0 < word.length := List.length_pos_iff.mpr hword
  have hlength := congrArg List.length h
  simp only [plural, List.isEmpty_eq_false_iff.mpr hword, Bool.false_eq_true, if_false, hplural]
    at hlength
  split at hlength
  · simp only [List.length_append, List.length_dropLast, List.length_cons, List.length_nil]
      at hlength
    omega
  split at hlength <;>
    simp only [List.length_append, List.length_cons, List.length_nil] at hlength <;> omega

/-- Whatever takes `es` is a plural thereafter. -/
theorem looksPlural_append_es (word : List Char) :
    looksPlural (lower (word ++ ['e', 's'])) = true := by
  obtain ⟨before, hbefore, -⟩ :=
    Lowering.of_stem es_letters (.self es_letters) (.lower (word ++ ['e', 's']))
  rw [hbefore, looksPlural_snoc]
  rfl

/-- Each rule but the last makes a plural in `es`. -/
theorem plural_cases {word : List Char} (hword : word ≠ []) :
    looksPlural (lower word) = true ∨
      (['y'].isSuffixOf (lower word) = true ∨ endsInAny sibilantEndings (lower word) = true) ∧
        (∃ stem, plural word = stem ++ ['e', 's']) ∨
      endsInAny sibilantEndings (lower word) = false ∧ plural word = word ++ ['s'] := by
  have hempty : word.isEmpty = false := List.isEmpty_eq_false_iff.mpr hword
  cases hplural : looksPlural (lower word) with
  | true => exact Or.inl rfl
  | false =>
      refine Or.inr ?_
      cases hy : ['y'].isSuffixOf (lower word) with
      | true =>
          refine Or.inl ⟨Or.inl rfl, word.dropLast ++ ['i'], ?_⟩
          simp [plural, hempty, hplural, hy]
      | false =>
          cases hsibilant : endsInAny sibilantEndings (lower word) with
          | true =>
              refine Or.inl ⟨Or.inr rfl, word, ?_⟩
              simp [plural, hempty, hplural, hy, hsibilant]
          | false =>
              refine Or.inr ⟨rfl, ?_⟩
              simp [plural, hempty, hplural, hy, hsibilant]

/-- The letters in which `y` and the sibilants end are none of those vowels. -/
theorem keepsPlural_of_rule {init : List Char} {c : Char}
    (h : ['y'].isSuffixOf (init ++ [c]) = true ∨
      endsInAny sibilantEndings (init ++ [c]) = true) : keepsPlural c = true := by
  have hletters : ∀ c ∈ ['y', 's', 'x', 'z', 'h'], keepsPlural c = true :=
    List.all_iff_forall_prop.mp (by decide)
  refine hletters c ?_
  simp only [endsInAny, sibilantEndings, List.any_cons, List.any_nil, List.isSuffixOf,
    List.reverse_append, List.reverse_cons, List.reverse_nil, List.nil_append, List.cons_append,
    List.isPrefixOf, Bool.or_false, Bool.and_true, Bool.or_eq_true, Bool.and_eq_true,
    beq_iff_eq] at h
  grind

/-- A plural in a single `s` is kept exactly if the word ends in a letter that allows it. -/
theorem plural_append_s {word init : List Char} {c : Char} (hlower : lower word = init ++ [c])
    (hsibilant : endsInAny sibilantEndings (lower word) = false) :
    plural (word ++ ['s']) = word ++ ['s'] ↔ keepsPlural c = true := by
  obtain ⟨before, hbefore, hword⟩ :=
    Lowering.of_stem s_letter (.self s_letter) (.lower (word ++ ['s']))
  have hc : c ≠ 's' := by
    rintro rfl
    rw [hlower] at hsibilant
    simp [endsInAny, sibilantEndings, List.isSuffixOf] at hsibilant
  -- Only a sigma may take another form before the `s`, and both of its forms are letters.
  obtain ⟨last, b, rfl, hb, hsame⟩ : ∃ last b, before = last ++ [b] ∧ b ≠ 's' ∧
      keepsPlural b = keepsPlural c := by
    have hsigmas : ∀ b ∈ smallSigmas, b ≠ 's' ∧ keepsPlural b = true :=
      List.all_iff_forall_prop.mp (by decide)
    have hagree := (Lowering.lower word).getLast?_agree hword
    rw [hlower, List.getLast?_append_of_ne_nil _ (List.cons_ne_nil _ _),
      List.getLast?_singleton] at hagree
    rcases hagree with hsame | ⟨⟨d, hd, hform⟩, b, hb, hother⟩
    · obtain ⟨last, rfl⟩ := List.getLast?_eq_some_iff.mp hsame.symm
      exact ⟨last, c, rfl, hc, rfl⟩
    · obtain ⟨last, rfl⟩ := List.getLast?_eq_some_iff.mp hother
      obtain rfl := Option.some.inj hform
      exact ⟨last, b, rfl, (hsigmas b hb).1, (hsigmas b hb).2.trans (hsigmas c hd).2.symm⟩
  have hlast : looksPlural (last ++ [b, 's']) = keepsPlural b := looksPlural_of_ne hb
  rw [List.append_assoc, List.singleton_append] at hbefore
  rw [← hsame, ← hlast, ← hbefore]
  exact ⟨looksPlural_of_plural_eq (List.append_ne_nil_of_right_ne_nil _ (List.cons_ne_nil _ _)),
    plural_of_looksPlural⟩

theorem plural_plural_iff {word init : List Char} {c : Char} (hlower : lower word = init ++ [c]) :
    plural (plural word) = plural word ↔ keepsPlural c = true := by
  have hword : word ≠ [] := by
    rintro rfl
    exact absurd hlower.symm (List.append_ne_nil_of_right_ne_nil _ (List.cons_ne_nil _ _))
  rcases plural_cases hword with hplural | ⟨hrule, stem, hes⟩ | ⟨hsibilant, hs⟩
  · rw [plural_of_looksPlural hplural, plural_of_looksPlural hplural]
    rw [hlower] at hplural
    obtain rfl := eq_of_looksPlural hplural
    exact iff_of_true rfl (by decide)
  · rw [hlower] at hrule
    rw [hes]
    exact iff_of_true (plural_of_looksPlural (looksPlural_append_es stem))
      (keepsPlural_of_rule hrule)
  · rw [hs]
    exact plural_append_s hlower hsibilant

/-- Both forms are made by whole characters, whatever the word.  Its plural is a plural to the rules
themselves exactly if the lower-cased word ends in a letter other than `a`, `i`, `o` and `u`. -/
theorem pluralize_settles (s : String) :
    pluralBytes? s = some (pluralize s) ∧ singularBytes? s = some (singularize s) ∧
      (s ≠ "" → ∃ c, (lowercase s).toList.getLast? = some c ∧
        (pluralize (pluralize s) = pluralize s ↔
          isAlphabetic c = true ∧ c ≠ 'a' ∧ c ≠ 'i' ∧ c ≠ 'o' ∧ c ≠ 'u')) := by
  refine ⟨pluralBytes?_eq s, singularBytes?_eq s, fun hs => ?_⟩
  have hlowered : (lowercase s).toList = lower s.toList := String.toList_ofList
  have hchars : s.toList ≠ [] := fun hnil => hs (String.toList_eq_nil_iff.mp hnil)
  obtain hnil | ⟨init, c, hlower⟩ := List.eq_nil_or_concat (lower s.toList)
  · exact absurd hnil ((Lowering.lower s.toList).ne_nil hchars)
  rw [List.concat_eq_append] at hlower
  refine ⟨c, ?_, ?_⟩
  · rw [hlowered, hlower, List.getLast?_append_of_ne_nil _ (List.cons_ne_nil _ _),
      List.getLast?_singleton]
  · have hkeeps : keepsPlural c = true ↔
        isAlphabetic c = true ∧ c ≠ 'a' ∧ c ≠ 'i' ∧ c ≠ 'o' ∧ c ≠ 'u' := by
      simp [keepsPlural]
    rw [← hkeeps, ← plural_plural_iff hlower, pluralize, pluralize, String.toList_ofList,
      String.ofList_inj]

theorem school_settles :
    "École" ≠ "" ∧ (lowercase "École").toList.getLast? = some 'e' ∧
      pluralize (pluralize "École") = pluralize "École" := by
  have hlast : (lowercase "École").toList.getLast? = some 'e' := by decide +kernel
  obtain ⟨c, hc, hsettles⟩ := (pluralize_settles "École").2.2 (by decide)
  obtain rfl : 'e' = c := Option.some.inj (hlast.symm.trans hc)
  exact ⟨by decide, hlast, hsettles.mpr (by decide)⟩

end FormScaffold.Naming
