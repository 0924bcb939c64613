import FormScaffold.Naming.Words
import FormScaffold.Proofs.Text.CaseFolding

/-!
# Where an identifier is cut

A word has no separators, and nothing but its first character is in upper case.  The words of an
identifier are words in this sense.  A word in front of a separator or of an upper-case character
is cut off as it is, so words that are joined in such a way are cut apart again.

The words of an identifier have all its characters but the separators, and capitalising a word
changes the case of its characters only.  So pascal case keeps what the identifier folds to
without its separators, and nothing is left of an identifier only if it is made of separators.
-/

namespace FormScaffold.Naming

open FormScaffold.Text

/-! ## Words -/

/-- A text that is never cut: it has no separators, and is in upper case at its start only. -/
structure IsWord (w : List Char) : Prop where
  ne_nil : w ≠ []
  joined : ∀ c ∈ w, isSeparator c = false
  small : ∀ c ∈ w.tail, isUppercase c = false

namespace IsWord

theorem singleton {c : Char} (h : isSeparator c = false) : IsWord [c] where
  ne_nil := List.cons_ne_nil _ _
  joined := fun _ hd => List.mem_singleton.mp hd ▸ h
  small := fun _ hd => nomatch hd

theorem snoc {w : List Char} (hw : IsWord w) {c : Char} (hseparator : isSeparator c = false)
    (hupper : isUppercase c = false) : IsWord (w ++ [c]) where
  ne_nil := List.append_ne_nil_of_left_ne_nil hw.ne_nil _
  joined := fun d hd => (List.mem_append.mp hd).elim (hw.joined d) fun hd =>
    List.mem_singleton.mp hd ▸ hseparator
  small := fun d hd => by
    rw [List.tail_append_of_ne_nil hw.ne_nil] at hd
    exact (List.mem_append.mp hd).elim (hw.small d) fun hd => List.mem_singleton.mp hd ▸ hupper

theorem exists_cons {w : List Char} (hw : IsWord w) : ∃ c rest, w = c :: rest ∧
    isSeparator c = false ∧ (∀ d ∈ rest, isSeparator d = false) ∧
    ∀ d ∈ rest, isUppercase d = false := by
  obtain ⟨c, rest, rfl⟩ := List.exists_cons_of_ne_nil hw.ne_nil
  exact ⟨c, rest, rfl, hw.joined c List.mem_cons_self,
    fun d hd => hw.joined d (List.mem_cons_of_mem _ hd), hw.small⟩

end IsWord

/-! ## Words of an identifier -/

/-- A character that is no separator goes on with the word under way, unless it is in upper case;
without one it is the first of a word in any case. -/
theorem wordsFrom_cons {current : List Char} {c : Char} (hc : isSeparator c = false)
    (hgoes : current = [] ∨ isUppercase c = false) (rest : List Char) :
    wordsFrom current (c :: rest) = wordsFrom (c :: current) rest := by
  have hcut : ¬ (isUppercase c && !current.isEmpty) = true := by
    rcases hgoes with rfl | hsmall
    · simp
    · simp [hsmall]
  rw [wordsFrom, if_neg (by simp [hc]), if_neg hcut]

theorem words_cons {c : Char} (hc : isSeparator c = false) (rest : List Char) :
    words (c :: rest) = wordsFrom [c] rest :=
  wordsFrom_cons hc (Or.inl rfl) rest

theorem isWord_of_mem_wordsFrom {current cs w : List Char}
    (hcurrent : current ≠ [] → IsWord current.reverse) (h : w ∈ wordsFrom current cs) :
    IsWord w := by
  induction cs generalizing current with
  | nil =>
      unfold wordsFrom at h
      split at h
      · cases h
      · rename_i hne
        rw [List.mem_singleton.mp h]
        exact hcurrent (by simpa using hne)
  | cons c rest ih =>
      unfold wordsFrom at h
      have hfresh : ([] : List Char) ≠ [] → IsWord ([] : List Char).reverse :=
        fun hne => absurd rfl hne
      by_cases hseparator : isSeparator c = true
      · rw [if_pos hseparator] at h
        split at h
        · exact ih hfresh h
        · rename_i hne
          rcases List.mem_cons.mp h with rfl | h
          · exact hcurrent (by simpa using hne)
          · exact ih hfresh h
      · rw [if_neg hseparator] at h
        have hjoined : isSeparator c = false := Bool.eq_false_iff.mpr hseparator
        split at h
        · rename_i hcut
          rcases List.mem_cons.mp h with rfl | h
          · exact hcurrent (by simpa using (Bool.and_eq_true_iff.mp hcut).2)
          · have hfirst : IsWord [c].reverse := .singleton hjoined
            exact ih (fun _ => hfirst) h
        · rename_i hgoes
          refine ih (fun _ => ?_) h
          -- The character goes on with the word under way, or it is the first of one.
          rw [List.reverse_cons]
          by_cases hne : current = []
          · rw [hne]
            exact .singleton hjoined
          · refine (hcurrent hne).snoc hjoined ?_
            simpa [hne] using hgoes

/-- The words of an identifier are words. -/
theorem isWord_of_mem_words {cs w : List Char} (h : w ∈ words cs) : IsWord w :=
  isWord_of_mem_wordsFrom (fun hne => absurd rfl hne) h

/-- The text starts in upper case. -/
def startsUpper (cs : List Char) : Bool := cs.head?.any isUppercase

/-- A word under way is the start of the next word; without separators all cuts are at upper
case. -/
theorem wordsFrom_eq_cons {current : List Char} (hcurrent : current ≠ []) (cs : List Char) :
    ∃ more others, wordsFrom current cs = (current.reverse ++ more) :: others ∧
      ((∀ c ∈ cs, isSeparator c = false) → ∀ w ∈ others, startsUpper w = true) := by
  induction cs generalizing current with
  | nil =>
      refine ⟨[], [], ?_, fun _ _ h => nomatch h⟩
      rw [wordsFrom, if_neg (by simpa using hcurrent), List.append_nil]
  | cons c rest ih =>
      rw [wordsFrom]
      split
      -- At a separator or in front of upper case the word ends, and no more is added to it.
      · rename_i hseparator
        rw [if_neg (by simpa using hcurrent)]
        refine ⟨[], _, by rw [List.append_nil], fun hcs => ?_⟩
        rw [hcs c List.mem_cons_self] at hseparator
        cases hseparator
      · split
        · rename_i hcut
          obtain ⟨more, others, hothers, hupper⟩ := ih (List.cons_ne_nil c [])
          have hstarts : startsUpper ([c].reverse ++ more) = true :=
            (Bool.and_eq_true_iff.mp hcut).1
          refine ⟨[], _, by rw [hothers, List.append_nil], fun hcs => ?_⟩
          exact List.forall_mem_cons.mpr ⟨hstarts, hupper (List.forall_mem_cons.mp hcs).2⟩
        · obtain ⟨more, others, hothers, hupper⟩ := ih (List.cons_ne_nil c current)
          refine ⟨c :: more, others, by rw [hothers]; simp, fun hcs => ?_⟩
          exact hupper (List.forall_mem_cons.mp hcs).2

/-- The first word of a text that starts with a letter has that letter.  Without separators all
other words start in upper case. -/
theorem words_eq_cons {c : Char} (hc : isSeparator c = false) (cs : List Char) :
    ∃ more others, words (c :: cs) = (c :: more) :: others ∧
      ((∀ d ∈ cs, isSeparator d = false) → ∀ w ∈ others, startsUpper w = true) := by
  rw [words_cons hc]
  exact wordsFrom_eq_cons (List.cons_ne_nil c []) cs

/-! ## Joined words -/

/-- What follows a word is not part of it: it starts with a separator or in upper case. -/
def startsAnew : List Char → Bool
  | [] => true
  | c :: _ => isSeparator c || isUppercase c

/-- Characters inside a word go on with the word under way. -/
theorem wordsFrom_append {current inner : List Char} (hjoined : ∀ c ∈ inner, isSeparator c = false)
    (hsmall : ∀ c ∈ inner, isUppercase c = false) (rest : List Char) :
    wordsFrom current (inner ++ rest) = wordsFrom (inner.reverse ++ current) rest := by
  induction inner generalizing current with
  | nil => rfl
  | cons c inner ih =>
      obtain ⟨hc, hjoined⟩ := List.forall_mem_cons.mp hjoined
      obtain ⟨hc', hsmall⟩ := List.forall_mem_cons.mp hsmall
      rw [List.cons_append, wordsFrom_cons hc (Or.inr hc'), ih hjoined hsmall, List.reverse_cons,
        List.append_assoc, List.singleton_append]

/-- A word under way ends where the next one starts. -/
theorem wordsFrom_of_startsAnew {current rest : List Char} (hcurrent : current ≠ [])
    (hrest : startsAnew rest = true) : wordsFrom current rest = current.reverse :: words rest := by
  have hempty : ¬ current.isEmpty = true := by simpa using hcurrent
  unfold words
  cases rest with
  | nil => rw [wordsFrom, if_neg hempty]; rfl
  | cons c rest =>
      rw [wordsFrom, wordsFrom]
      by_cases hseparator : isSeparator c = true
      · rw [if_pos hseparator, if_pos hseparator, if_neg hempty]
        rfl
      · have hupper : isUppercase c = true := (Bool.or_eq_true_iff.mp hrest).resolve_left hseparator
        rw [if_neg hseparator, if_neg hseparator, if_pos (by simpa [hupper] using hcurrent)]
        simp

/-- A word is cut off in front of what starts anew. -/
theorem words_append {w rest : List Char} (hw : IsWord w) (hrest : startsAnew rest = true) :
    words (w ++ rest) = w :: words rest := by
  obtain ⟨c, inner, rfl, hc, hjoined, hsmall⟩ := hw.exists_cons
  rw [List.cons_append, words_cons hc, wordsFrom_append hjoined hsmall,
    wordsFrom_of_startsAnew (by simp) hrest]
  simp

/-- Separators in front of a text are dropped. -/
theorem words_append_of_separators {between : List Char}
    (h : ∀ c ∈ between, isSeparator c = true) (rest : List Char) :
    words (between ++ rest) = words rest := by
  induction between with
  | nil => rfl
  | cons c between ih =>
      obtain ⟨hc, hbetween⟩ := List.forall_mem_cons.mp h
      rw [List.cons_append, words, wordsFrom, if_pos hc, if_pos List.isEmpty_nil]
      exact ih hbetween

/-- Words are cut apart again if each but the first starts anew with what is put before it. -/
theorem words_joined {between first : List Char} {others : List (List Char)}
    (hbetween : ∀ c ∈ between, isSeparator c = true) (hfirst : IsWord first)
    (hothers : ∀ w ∈ others, IsWord w ∧ startsAnew (between ++ w) = true) :
    words (first ++ others.flatMap fun w => between ++ w) = first :: others := by
  induction others generalizing first with
  | nil =>
      rw [List.flatMap_nil, words_append hfirst rfl]
      rfl
  | cons w others ih =>
      obtain ⟨⟨hw, hanew⟩, hothers⟩ := List.forall_mem_cons.mp hothers
      have hstarts :
          startsAnew ((between ++ w) ++ others.flatMap fun w => between ++ w) = true := by
        obtain ⟨c, rest, hrest⟩ := List.exists_cons_of_ne_nil
          (List.append_ne_nil_of_right_ne_nil between hw.ne_nil)
        rw [hrest] at hanew ⊢
        exact hanew
      -- The first word is cut off, and what stands between it and the next one is dropped.
      rw [List.flatMap_cons, words_append hfirst hstarts, List.append_assoc,
        words_append_of_separators hbetween, ih hw hothers]

/-! ## What pascal case keeps -/

/-- The characters of an identifier that belong to words. -/
def letters (cs : List Char) : List Char := cs.filter fun c => !isSeparator c

theorem letters_append (before after : List Char) :
    letters (before ++ after) = letters before ++ letters after :=
  List.filter_append ..

theorem letters_cons {c : Char} (hc : isSeparator c = false) (cs : List Char) :
    letters (c :: cs) = c :: letters cs :=
  List.filter_cons_of_pos (by simp [hc])

theorem letters_cons_of_separator {c : Char} (hc : isSeparator c = true) (cs : List Char) :
    letters (c :: cs) = letters cs :=
  List.filter_cons_of_neg (by simp [hc])

theorem letters_of_separators {cs : List Char} (h : ∀ c ∈ cs, isSeparator c = true) :
    letters cs = [] := by
  refine List.filter_eq_nil_iff.mpr fun c hc => ?_
  simp [h c hc]

theorem flatten_wordsFrom (current cs : List Char) :
    (wordsFrom current cs).flatten = current.reverse ++ letters cs := by
  induction cs generalizing current with
  | nil =>
      cases current with
      | nil => rfl
      | cons c current => simp [wordsFrom, letters]
  | cons c rest ih =>
      unfold wordsFrom
      by_cases hseparator : isSeparator c = true
      · rw [if_pos hseparator, letters_cons_of_separator hseparator]
        cases current with
        | nil => exact ih []
        | cons d current =>
            rw [if_neg (by simp), List.flatten_cons, ih]
            rfl
      · rw [if_neg hseparator, letters_cons (Bool.eq_false_iff.mpr hseparator)]
        split
        · rw [List.flatten_cons, ih]
          rfl
        · rw [ih, List.reverse_cons, List.append_assoc, List.singleton_append]

/-- The words of an identifier have all its characters but the separators. -/
theorem flatten_words (cs : List Char) : (words cs).flatten = letters cs :=
  flatten_wordsFrom [] cs

/-- Only separators are lost altogether. -/
theorem pascal_eq_nil {cs : List Char} : pascal cs = [] ↔ letters cs = [] := by
  rw [← flatten_words]
  unfold pascal words
  constructor
  · intro h
    refine List.flatten_eq_nil_iff.mpr fun w hw => ?_
    have hcapital := List.flatMap_eq_nil_iff.mp h w hw
    cases w with
    | nil => rfl
    | cons c rest => exact absurd (List.append_eq_nil_iff.mp hcapital).1 (upperChars_ne_nil c)
  · intro h
    refine List.flatMap_eq_nil_iff.mpr fun w hw => ?_
    exact absurd (List.flatten_eq_nil_iff.mp h w hw) (isWord_of_mem_words hw).ne_nil

/-- Pascal case folds to what the letters of the identifier fold to. -/
theorem upper_lower_pascal (cs : List Char) :
    upper (lower (pascal cs)) = upper (lower (letters cs)) := by
  rw [upper_lower, upper_lower, ← flatten_words]
  unfold pascal
  induction words cs with
  | nil => rfl
  | cons w rest ih =>
      rw [List.flatMap_cons, List.flatMap_append, folded_capitalize, ih, List.flatten_cons,
        List.flatMap_append]

/-! ## Identifiers as strings -/

/-- What an identifier folds to without its separators. -/
def letterFold (s : String) : List Char := upper (lower (letters s.toList))

theorem pascalCase_eq_empty {s : String} : pascalCase s = "" ↔ letters s.toList = [] := by
  rw [← pascal_eq_nil, pascalCase, ← String.toList_inj, String.toList_ofList]
  rfl

theorem upper_lower_pascalCase (s : String) :
    upper (lower (pascalCase s).toList) = letterFold s := by
  rw [pascalCase, String.toList_ofList]
  exact upper_lower_pascal s.toList

theorem letterFold_eq {s t : String} (h : pascalCase s = pascalCase t) :
    letterFold s = letterFold t := by
  rw [← upper_lower_pascalCase, h, upper_lower_pascalCase]

/-- Identifiers of ASCII without separators that have one pascal case differ in case only. -/
theorem lowercase_eq {s t : String} (h : pascalCase s = pascalCase t) (hs : isAscii s = true)
    (ht : isAscii t = true) (hs' : letters s.toList = s.toList)
    (ht' : letters t.toList = t.toList) : lowercase s = lowercase t := by
  have hlower : ∀ u : String, isAscii u = true → letters u.toList = u.toList →
      lower u.toList = (letterFold u).flatMap lowerChars := by
    intro u hu hletters
    unfold letterFold
    rw [hletters, upper_lower]
    exact lowerFrom_ascii fun c hc => by simpa using List.all_eq_true.mp hu c hc
  unfold lowercase
  rw [hlower s hs hs', hlower t ht ht', letterFold_eq h]

end FormScaffold.Naming
