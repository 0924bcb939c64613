import FormScaffold.Proofs.Naming.WordCuts

/-!
# The word that a character stands in

Reading an identifier up to a letter, a character that is no separator, leaves complete words and
a word under way that ends with the letter; together they are what was read, separators apart.
What comes next decides: a separator or an upper-case character ends the word, and any other
character goes on with it.  So of two letters with nothing but separators between them the second
stands in the word of the first, or in the one after it if there is a separator between them or
the second is in upper case.
-/

namespace FormScaffold.Naming

open FormScaffold.Text

/-! ## Reading up to a letter -/

/-- What is read up to a letter makes up complete words and the word under way, which the letter
ends. -/
theorem wordsFrom_letter (current before rest : List Char) {c : Char}
    (hc : isSeparator c = false) :
    ∃ full inner, wordsFrom current (before ++ c :: rest) =
        full ++ wordsFrom (c :: inner.reverse) rest ∧
      full.flatten ++ inner = current.reverse ++ letters before := by
  -- The induction is on what comes before the letter, over every word under way.
  induction before generalizing current with
  | nil =>
      rw [List.nil_append, wordsFrom, if_neg (by simp [hc])]
      split
      · exact ⟨[current.reverse], [], rfl, by simp [letters]⟩
      · exact ⟨[], current.reverse, by simp, by simp [letters]⟩
  | cons b before ih =>
      rw [List.cons_append, wordsFrom]
      -- A separator ends the word under way, if there is one, and upper case does so as well; any
      -- other character goes on with it.
      by_cases hb : isSeparator b = true
      · obtain ⟨full, inner, hwords, hread⟩ := ih []
        rw [if_pos hb, letters_cons_of_separator hb]
        split
        · rename_i hempty
          rw [List.isEmpty_iff.mp hempty]
          exact ⟨full, inner, hwords, hread⟩
        · refine ⟨current.reverse :: full, inner, by rw [hwords, List.cons_append], ?_⟩
          rw [List.flatten_cons, List.append_assoc, hread]
          rfl
      · rw [if_neg hb, letters_cons (Bool.eq_false_iff.mpr hb)]
        split
        · obtain ⟨full, inner, hwords, hread⟩ := ih [b]
          refine ⟨current.reverse :: full, inner, by rw [hwords, List.cons_append], ?_⟩
          rw [List.flatten_cons, List.append_assoc, hread]
          rfl
        · obtain ⟨full, inner, hwords, hread⟩ := ih (b :: current)
          refine ⟨full, inner, hwords, ?_⟩
          rw [hread, List.reverse_cons, List.append_assoc, List.singleton_append]

/-- A letter stands in some word, after what was read before it. -/
theorem words_letter (before rest : List Char) {c : Char} (hc : isSeparator c = false) :
    ∃ full inner more others, words (before ++ c :: rest) = full ++ (inner ++ c :: more) :: others ∧
      full.flatten ++ inner = letters before := by
  obtain ⟨full, inner, hwords, hread⟩ := wordsFrom_letter [] before rest hc
  obtain ⟨more, others, hstarts, -⟩ := wordsFrom_eq_cons (List.cons_ne_nil c inner.reverse) rest
  refine ⟨full, inner, more, others, ?_, hread⟩
  rw [words, hwords, hstarts]
  simp

/-- A separator or an upper-case character ends the word in front of it. -/
theorem words_parted (before after : List Char) {between : List Char} {c d : Char}
    (hc : isSeparator c = false) (hd : isSeparator d = false)
    (hbetween : ∀ e ∈ between, isSeparator e = true)
    (hparted : between ≠ [] ∨ isUppercase d = true) :
    ∃ full inner more others, words (before ++ c :: (between ++ d :: after)) =
        full ++ (inner ++ [c]) :: (d :: more) :: others ∧
      full.flatten ++ inner = letters before := by
  obtain ⟨full, inner, hwords, hread⟩ := wordsFrom_letter [] before (between ++ d :: after) hc
  -- With nothing between, it is the second letter that starts anew.
  have hanew : startsAnew (between ++ d :: after) = true := by
    cases between with
    | nil => simpa [startsAnew] using Or.inr (hparted.resolve_left fun hne => hne rfl)
    | cons e between => simp [startsAnew, hbetween e List.mem_cons_self]
  obtain ⟨more, others, hnext, -⟩ := words_eq_cons hd after
  refine ⟨full, inner, more, others, ?_, hread⟩
  rw [words, hwords, wordsFrom_of_startsAnew (List.cons_ne_nil _ _) hanew,
    words_append_of_separators hbetween, hnext]
  simp

/-- Any other character goes on with the word. -/
theorem words_together (before after : List Char) {c d : Char} (hc : isSeparator c = false)
    (hd : isSeparator d = false) (hsmall : isUppercase d = false) :
    ∃ full inner more others,
      words (before ++ c :: d :: after) = full ++ (inner ++ c :: d :: more) :: others ∧
      full.flatten ++ inner = letters before := by
  obtain ⟨full, inner, hwords, hread⟩ := wordsFrom_letter [] before (d :: after) hc
  obtain ⟨more, others, hstarts, -⟩ :=
    wordsFrom_eq_cons (List.cons_ne_nil d (c :: inner.reverse)) after
  refine ⟨full, inner, more, others, ?_, hread⟩
  rw [words, hwords, wordsFrom_cons hd (Or.inr hsmall), hstarts]
  simp

/-! ## Numbers of words -/

/-- The character at position `i` stands in the word of number `k`: there it comes after what the
words have of the text in front of it. -/
def StandsIn (cs : List Char) (i k : Nat) : Prop :=
  ∃ inner c more, cs[i]? = some c ∧ (words cs)[k]? = some (inner ++ c :: more) ∧
    ((words cs).take k).flatten ++ inner = letters (cs.take i)

theorem StandsIn.of_words {cs inner more : List Char} {full others : List (List Char)} {c : Char}
    {i : Nat} (hat : cs[i]? = some c) (hwords : words cs = full ++ (inner ++ c :: more) :: others)
    (hread : full.flatten ++ inner = letters (cs.take i)) : StandsIn cs i full.length := by
  refine ⟨inner, c, more, hat, ?_, ?_⟩
  · rw [hwords, List.getElem?_append_right (Nat.le_refl _), Nat.sub_self, List.getElem?_cons_zero]
  · rw [hwords, List.take_left]
    exact hread

/-- A word has room for what stands in it, so nothing stands in a later word as well. -/
theorem StandsIn.le {cs : List Char} {i k l : Nat} (hk : StandsIn cs i k) (hl : StandsIn cs i l) :
    l ≤ k := by
  by_contra hlater
  obtain ⟨inner, c, more, -, hword, hread⟩ := hk
  obtain ⟨inner', -, -, -, -, hread'⟩ := hl
  obtain ⟨rest, hrest⟩ : (words cs).take (k + 1) <+: (words cs).take l :=
    List.take_prefix_take_left (by omega)
  rw [List.take_add_one, hword] at hrest
  -- The words up to the later one hold the letter itself, those in front of its own word do not.
  have hlength := congrArg List.length (hread'.trans hread.symm)
  rw [← hrest] at hlength
  simp only [Option.toList_some, List.flatten_append, List.flatten_cons, List.length_append,
    List.length_cons] at hlength
  omega

theorem StandsIn.unique {cs : List Char} {i k l : Nat} (hk : StandsIn cs i k)
    (hl : StandsIn cs i l) : l = k :=
  Nat.le_antisymm (hk.le hl) (hl.le hk)

theorem eq_take_append {cs : List Char} {i : Nat} {c : Char} (h : cs[i]? = some c) :
    cs = cs.take i ++ c :: cs.drop (i + 1) := by
  obtain ⟨hbound, rfl⟩ := List.getElem?_eq_some_iff.mp h
  simp

theorem exists_standsIn {cs : List Char} {i : Nat} {c : Char} (hat : cs[i]? = some c)
    (hc : isSeparator c = false) : ∃ k, StandsIn cs i k := by
  obtain ⟨full, inner, more, others, hwords, hread⟩ :=
    words_letter (cs.take i) (cs.drop (i + 1)) hc
  rw [← eq_take_append hat] at hwords
  exact ⟨full.length, .of_words hat hwords hread⟩

/-! ## Neighbouring letters -/

/-- Two letters of a text with nothing but separators between their positions. -/
structure Neighbours (cs : List Char) (i j : Nat) (c d : Char) : Prop where
  first : cs[i]? = some c
  second : cs[j]? = some d
  ordered : i < j
  first_letter : isSeparator c = false
  second_letter : isSeparator d = false
  between : ∀ m e, i < m → m < j → cs[m]? = some e → isSeparator e = true

namespace Neighbours

variable {cs : List Char} {i j : Nat} {c d : Char}

theorem split (h : Neighbours cs i j c d) :
    ∃ before between after, cs = before ++ c :: (between ++ d :: after) ∧ before.length = i ∧
      i + 1 + between.length = j ∧ ∀ e ∈ between, isSeparator e = true := by
  have hordered := h.ordered
  have hafter : (cs.drop (i + 1))[j - (i + 1)]? = some d := by
    rw [List.getElem?_drop, Nat.add_sub_cancel' hordered]
    exact h.second
  have hbound := (List.getElem?_eq_some_iff.mp h.second).1
  refine ⟨cs.take i, (cs.drop (i + 1)).take (j - (i + 1)), (cs.drop (i + 1)).drop (j - (i + 1) + 1),
    ?_, ?_, ?_, ?_⟩
  · rw [← eq_take_append hafter]
    exact eq_take_append h.first
  · rw [List.length_take]
    omega
  · rw [List.length_take, List.length_drop]
    omega
  · intro e he
    obtain ⟨m, hm⟩ := List.mem_iff_getElem?.mp he
    have hlt := (List.getElem?_eq_some_iff.mp hm).1
    rw [List.length_take] at hlt
    rw [List.getElem?_take_of_lt (by omega), List.getElem?_drop] at hm
    exact h.between (i + 1 + m) e (by omega) (by omega) hm

/-- Between two neighbouring letters nothing is read but the first of them. -/
theorem letters_take (h : Neighbours cs i j c d) :
    letters (cs.take j) = letters (cs.take i) ++ [c] := by
  obtain ⟨before, between, after, rfl, rfl, rfl, hbetween⟩ := h.split
  have hsplit : before ++ c :: (between ++ d :: after) =
      (before ++ c :: between) ++ d :: after := by simp
  have hlength : before.length + 1 + between.length = (before ++ c :: between).length := by
    rw [List.length_append, List.length_cons]
    omega
  rw [List.take_left, hsplit, hlength, List.take_left, letters_append,
    letters_cons h.first_letter, letters_of_separators hbetween]

theorem standsIn_parted (h : Neighbours cs i j c d) (hparted : i + 1 < j ∨ isUppercase d = true) :
    ∃ k, StandsIn cs i k ∧ StandsIn cs j (k + 1) := by
  have hread_next := h.letters_take
  obtain ⟨before, between, after, rfl, rfl, rfl, hbetween⟩ := h.split
  obtain ⟨full, inner, more, others, hwords, hread⟩ :=
    words_parted before after h.first_letter h.second_letter hbetween
      (hparted.imp_left fun hlt hnil => by simp [hnil] at hlt)
  rw [List.take_left, ← hread] at hread_next
  refine ⟨full.length, .of_words h.first hwords (by rw [hread, List.take_left]), ?_⟩
  have hnext : words (before ++ c :: (between ++ d :: after)) =
      (full ++ [inner ++ [c]]) ++ ([] ++ d :: more) :: others := by rw [hwords]; simp
  have hstands := StandsIn.of_words h.second hnext (by rw [hread_next]; simp)
  rwa [List.length_append, List.length_singleton] at hstands

theorem standsIn_together (h : Neighbours cs i j c d) (hnext : j = i + 1)
    (hsmall : isUppercase d = false) : ∃ k, StandsIn cs i k ∧ StandsIn cs j k := by
  have hread_next := h.letters_take
  subst hnext
  obtain ⟨before, between, after, rfl, rfl, hlength, -⟩ := h.split
  obtain rfl : between = [] := List.length_eq_zero_iff.mp (by omega)
  obtain ⟨full, inner, more, others, hwords, hread⟩ :=
    words_together before after h.first_letter h.second_letter hsmall
  rw [List.take_left, ← hread] at hread_next
  refine ⟨full.length, .of_words h.first hwords (by rw [hread, List.take_left]), ?_⟩
  have hgoes : words (before ++ c :: ([] ++ d :: after)) =
      full ++ ((inner ++ [c]) ++ d :: more) :: others := by
    rw [List.nil_append, hwords]
    simp
  exact .of_words h.second hgoes (by rw [hread_next, List.append_assoc])

/-- The second of two neighbouring letters stands in the next word if there is a separator between
them or it is in upper case, and else in the word of the first. -/
theorem standsIn (h : Neighbours cs i j c d) : ∃ k l, StandsIn cs i k ∧ StandsIn cs j l ∧
    (k ≠ l ↔ i + 1 < j ∨ isUppercase d = true) := by
  by_cases hparted : i + 1 < j ∨ isUppercase d = true
  · obtain ⟨k, hk, hl⟩ := h.standsIn_parted hparted
    exact ⟨k, k + 1, hk, hl, iff_of_true (Nat.ne_of_lt k.lt_succ_self) hparted⟩
  · have hclose := hparted
    simp only [not_or, Bool.not_eq_true] at hclose
    have hordered := h.ordered
    obtain ⟨k, hk, hl⟩ := h.standsIn_together (by omega) hclose.2
    exact ⟨k, k, hk, hl, iff_of_false (fun hne => hne rfl) hparted⟩

/-- There is a separator between neighbouring letters exactly if there is anything. -/
theorem exists_between_iff (h : Neighbours cs i j c d) :
    (∃ m e, i < m ∧ m < j ∧ cs[m]? = some e ∧ isSeparator e = true) ↔ i + 1 < j := by
  constructor
  · rintro ⟨m, -, hm, hm', -⟩
    omega
  · intro hlt
    have hbound := (List.getElem?_eq_some_iff.mp h.second).1
    have hat : cs[i + 1]? = some cs[i + 1] := List.getElem?_eq_getElem (by omega)
    exact ⟨i + 1, cs[i + 1], by omega, hlt, hat, h.between (i + 1) _ (by omega) hlt hat⟩

end Neighbours

/-! ## Identifiers as strings -/

theorem letters_eq (cs : List Char) :
    letters cs = cs.filter fun c => c != '_' && c != '-' && c != ' ' := by
  refine List.filter_congr fun c _ => ?_
  simp [isSeparator, bne]

theorem toList_join_wordList (s : String) :
    (String.join (wordList s)).toList = letters s.toList := by
  rw [wordList, String.toList_join, List.flatMap_map, ← flatten_words]
  simp only [String.toList_ofList]
  exact List.flatMap_id'

theorem IsWord.eq_zero_of_isUppercase {w : List Char} (hw : IsWord w) {n : Nat} {c : Char}
    (hat : w[n]? = some c) (hupper : isUppercase c = true) : n = 0 := by
  by_contra hn
  obtain ⟨m, rfl⟩ := Nat.exists_eq_add_one_of_ne_zero hn
  rw [← List.getElem?_tail] at hat
  rw [hw.small c (List.mem_of_getElem? hat)] at hupper
  cases hupper

/-- The words of an identifier concatenated are the identifier without `_`, `-` and spaces.  None
is empty, none has a separator, and none is in upper case but at its first position.  Each letter
stands in exactly one word, and two letters with only separators or nothing between them stand in
different words exactly if there is a separator or the second is in upper case. -/
theorem wordList_partition (s : String) :
    (String.join (wordList s)).toList =
      s.toList.filter (fun c => c != '_' && c != '-' && c != ' ') ∧
    (∀ w ∈ wordList s, w ≠ "" ∧ (∀ c ∈ w.toList, isSeparator c = false) ∧
      ∀ n c, w.toList[n]? = some c → isUppercase c = true → n = 0) ∧
    (∀ i c, s.toList[i]? = some c → isSeparator c = false →
      ∃ k, StandsIn s.toList i k ∧ ∀ l, StandsIn s.toList i l → l = k) ∧
    ∀ i j c d, Neighbours s.toList i j c d →
      ∃ k l, StandsIn s.toList i k ∧ StandsIn s.toList j l ∧
        (k ≠ l ↔ (∃ m e, i < m ∧ m < j ∧ s.toList[m]? = some e ∧ isSeparator e = true) ∨
          isUppercase d = true) := by
  refine ⟨?_, ?_, ?_, ?_⟩
  · rw [toList_join_wordList, letters_eq]
  · intro w hw
    obtain ⟨cs, hcs, rfl⟩ := List.mem_map.mp hw
    have hword := isWord_of_mem_words hcs
    rw [String.toList_ofList]
    refine ⟨fun hempty => hword.ne_nil ?_, hword.joined, fun n c => hword.eq_zero_of_isUppercase⟩
    exact String.ofList_eq_empty_iff.mp hempty
  · intro i c hat hc
    obtain ⟨k, hk⟩ := exists_standsIn hat hc
    exact ⟨k, hk, fun l hl => hk.unique hl⟩
  · intro i j c d h
    rw [h.exists_between_iff]
    exact h.standsIn

/-- A name of two words with two separators between them; the first starts anew inside. -/
def lineState : String := "lineÉtat __zone"

theorem lineState_words :
    (Neighbours lineState.toList 7 11 't' 'z' ∧
      ∃ k l, StandsIn lineState.toList 7 k ∧ StandsIn lineState.toList 11 l ∧ k ≠ l) ∧
    Neighbours lineState.toList 5 6 't' 'a' ∧
      ∃ k, StandsIn lineState.toList 5 k ∧ StandsIn lineState.toList 6 k := by
  have hspaced : Neighbours lineState.toList 7 11 't' 'z' := by
    refine ⟨rfl, rfl, by decide, rfl, rfl, fun m e hm hm' hat => ?_⟩
    obtain rfl | rfl | rfl : m = 8 ∨ m = 9 ∨ m = 10 := by omega
    all_goals
      cases hat
      rfl
  have hjoined : Neighbours lineState.toList 5 6 't' 'a' :=
    ⟨rfl, rfl, by decide, rfl, rfl, fun m e hm hm' hat => by omega⟩
  refine ⟨⟨hspaced, ?_⟩, hjoined, ?_⟩
  · obtain ⟨k, l, hk, hl, hiff⟩ := (wordList_partition lineState).2.2.2 7 11 't' 'z' hspaced
    exact ⟨k, l, hk, hl, hiff.mpr (Or.inl ⟨8, ' ', by decide, by decide, rfl, rfl⟩)⟩
  · obtain ⟨k, l, hk, hl, hiff⟩ := (wordList_partition lineState).2.2.2 5 6 't' 'a' hjoined
    have hsame : k = l := by
      by_contra hne
      rcases hiff.mp hne with ⟨m, -, hm, hm', -⟩ | hupper
      · omega
      · exact absurd hupper (by decide +kernel)
    exact ⟨k, hk, hsame ▸ hl⟩

end FormScaffold.Naming
