import Mathlib.Data.Bool.AllAny
import Mathlib.Data.List.Induction
import FormScaffold.Proofs.Text.CaseFolding

/-!
# Endings of lower-cased texts

A text is lower-cased character by character; only the form of a capital sigma depends on what
stands around it.  A lower-cased text ends in letters such as `ies` exactly if the text itself ends
in these letters in either case, one character for each, all of them in ASCII.
-/

namespace FormScaffold.Text

/-! ## Character by character -/

/-- What a character may become in a text that is lower-cased. -/
def LowersTo (c : Char) (image : List Char) : Prop :=
  image = lowerChars c ∨ c = 'Σ' ∧ image = ['ς']

theorem lowerChars_sigma : lowerChars 'Σ' = ['σ'] := by decide +kernel

/-- What a character does become between two texts. -/
theorem LowersTo.inContext (before after : List Char) (c : Char) :
    LowersTo c (if c == 'Σ' then [lowerSigma before after] else lowerChars c) := by
  split
  · rename_i hsigma
    rw [beq_iff_eq] at hsigma
    subst hsigma
    unfold lowerSigma
    split
    · exact Or.inr ⟨rfl, rfl⟩
    · exact Or.inl lowerChars_sigma.symm
  · exact Or.inl rfl

/-- A text becomes another, the last character after the others. -/
inductive Lowering : List Char → List Char → Prop
  | nil : Lowering [] []
  | snoc {cs ls : List Char} {c : Char} {image : List Char} (h : Lowering cs ls)
      (hc : LowersTo c image) : Lowering (cs ++ [c]) (ls ++ image)

namespace Lowering

theorem cons {c : Char} {image cs ls : List Char} (hc : LowersTo c image) (h : Lowering cs ls) :
    Lowering (c :: cs) (image ++ ls) := by
  induction h with
  | nil =>
      rw [List.append_nil]
      exact snoc nil hc
  | snoc _ hlast ih =>
      rw [← List.append_assoc]
      exact snoc ih hlast

theorem lowerFrom (before cs : List Char) : Lowering cs (lowerFrom before cs) := by
  induction cs generalizing before with
  | nil => exact nil
  | cons c rest ih => exact cons (.inContext before rest c) (ih _)

theorem lower (cs : List Char) : Lowering cs (lower cs) := lowerFrom [] cs

theorem of_nil {ls : List Char} (h : Lowering [] ls) : ls = [] := by
  generalize hcs : ([] : List Char) = cs at h
  cases h with
  | nil => rfl
  | snoc => exact absurd hcs.symm (List.append_ne_nil_of_right_ne_nil _ (List.cons_ne_nil _ _))

theorem of_snoc {cs ls : List Char} {c : Char} (h : Lowering (cs ++ [c]) ls) :
    ∃ before image, ls = before ++ image ∧ Lowering cs before ∧ LowersTo c image := by
  generalize hds : cs ++ [c] = ds at h
  cases h with
  | nil => exact absurd hds (List.append_ne_nil_of_right_ne_nil _ (List.cons_ne_nil _ _))
  | snoc hbefore hlast =>
      obtain ⟨rfl, hc⟩ := List.append_inj' hds rfl
      obtain rfl := List.singleton_inj.mp hc
      exact ⟨_, _, rfl, hbefore, hlast⟩

end Lowering

/-! ## Ending letters -/

/-- The letters of which the endings of plurals and singulars are made. -/
def endingLetters : List Char := ['a', 'c', 'e', 'h', 'i', 'o', 's', 'u', 'x', 'y', 'z']

/-- A code point whose lower-case form ends in such a letter is one of ASCII, and has no more. -/
def endsPlainly (n : Nat) : Bool :=
  match (lowerCodes n).getLast? with
  | some m => Nat.blt 127 m || !(endingLetters.map Char.toNat).contains m ||
      (lowerCodes n == [m] && Nat.blt n 128)
  | none => false

theorem endsPlainly_all (n : Nat) : endsPlainly n = true := by
  have hruns : checksRuns endsPlainly lowerRuns = true := by decide +kernel
  have hexpansions : lowerExpansions.all (fun e => endsPlainly e.1) = true := by decide +kernel
  refine of_mapped image?_lowerRuns hruns hexpansions fun hself => ?_
  have hself : lowerCodes n = [n] := hself
  unfold endsPlainly
  rw [hself, List.getLast?_singleton]
  simp only [beq_self_eq_true, Bool.true_and]
  cases hsmall : Nat.blt n 128 with
  | true => rw [Bool.or_true]
  | false =>
      have hlarge : Nat.blt 127 n = true :=
        Nat.blt_eq.mpr (Nat.not_lt.mp fun h => Bool.eq_false_iff.mp hsmall (Nat.blt_eq.mpr h))
      rw [hlarge, Bool.true_or, Bool.true_or]

/-- A character whose lower-case form ends in such a letter is this letter in one of its cases. -/
theorem lowerChars_of_getLast? {c a : Char} (ha : a ∈ endingLetters)
    (h : (lowerChars c).getLast? = some a) : lowerChars c = [a] ∧ c.toNat < 128 := by
  rw [lowerChars_eq, List.getLast?_map, Option.map_eq_some_iff] at h
  obtain ⟨m, hm, rfl⟩ := h
  have hcode : (Char.ofNat m).toNat = m :=
    toNat_ofNat (isCode_of_mem_lowerCodes (isCode_toNat c) (List.mem_of_getLast? hm))
  have hletter : (endingLetters.map Char.toNat).contains m = true :=
    List.contains_iff_mem.mpr (List.mem_map.mpr ⟨_, ha, hcode⟩)
  have hsmalls : ∀ k ∈ endingLetters.map Char.toNat, Nat.blt 127 k = false := by decide
  have hsmall : Nat.blt 127 m = false := hsmalls m (List.contains_iff_mem.mp hletter)
  have hplain := endsPlainly_all c.toNat
  unfold endsPlainly at hplain
  rw [hm] at hplain
  simp only [hletter, hsmall, Bool.not_true, Bool.false_or, Bool.and_eq_true, beq_iff_eq,
    Nat.blt_eq] at hplain
  rw [lowerChars_eq, hplain.1]
  exact ⟨rfl, hplain.2⟩

namespace LowersTo

variable {c a : Char} {image : List Char} (ha : a ∈ endingLetters) (h : LowersTo c image)
include ha h

theorem letter (hlast : image.getLast? = some a) : lowerChars c = [a] ∧ image = [a] := by
  rcases h with rfl | ⟨-, rfl⟩
  · have hc := (lowerChars_of_getLast? ha hlast).1
    exact ⟨hc, hc⟩
  · obtain rfl : 'ς' = a := by simpa using hlast
    exact absurd ha (by decide)

theorem eq_letter (hc : lowerChars c = [a]) : image = [a] := by
  rcases h with rfl | ⟨rfl, -⟩
  · exact hc
  · rw [lowerChars_sigma] at hc
    obtain rfl := List.singleton_inj.mp hc
    exact absurd ha (by decide)

end LowersTo

theorem lowerChars_ne_nil (c : Char) : lowerChars c ≠ [] := by
  have hplain := endsPlainly_all c.toNat
  unfold endsPlainly at hplain
  split at hplain
  next m hm =>
    rw [lowerChars_eq]
    intro hnil
    rw [List.map_eq_nil_iff.mp hnil, List.getLast?_nil] at hm
    exact nomatch hm
  next => exact absurd hplain Bool.false_ne_true

theorem LowersTo.ne_nil {c : Char} {image : List Char} (h : LowersTo c image) : image ≠ [] := by
  rcases h with rfl | ⟨-, rfl⟩
  · exact lowerChars_ne_nil c
  · exact List.cons_ne_nil _ _

/-- The forms of a small sigma. -/
def smallSigmas : List Char := ['σ', 'ς']

/-- Two forms of a character are the same, or both are small sigmas. -/
theorem LowersTo.agree {c : Char} {image other : List Char} (h : LowersTo c image)
    (hother : LowersTo c other) :
    image = other ∨ (∃ b ∈ smallSigmas, image = [b]) ∧ ∃ b ∈ smallSigmas, other = [b] := by
  have hmedial : 'σ' ∈ smallSigmas := List.mem_cons_self
  have hfinal : 'ς' ∈ smallSigmas := List.mem_cons_of_mem _ List.mem_cons_self
  rcases h with rfl | ⟨rfl, rfl⟩ <;> rcases hother with rfl | ⟨hc, rfl⟩
  · exact Or.inl rfl
  · rw [hc]
    exact Or.inr ⟨⟨_, hmedial, lowerChars_sigma⟩, _, hfinal, rfl⟩
  · exact Or.inr ⟨⟨_, hfinal, rfl⟩, _, hmedial, lowerChars_sigma⟩
  · exact Or.inl rfl

/-- So a text always lower-cases to the same last character, up to the form of a sigma. -/
theorem Lowering.getLast?_agree {cs ls others : List Char} (h : Lowering cs ls)
    (hother : Lowering cs others) :
    ls.getLast? = others.getLast? ∨
      (∃ b ∈ smallSigmas, ls.getLast? = some b) ∧ ∃ b ∈ smallSigmas, others.getLast? = some b := by
  rcases List.eq_nil_or_concat cs with rfl | ⟨cs, c, rfl⟩
  · exact Or.inl (by rw [h.of_nil, hother.of_nil])
  rw [List.concat_eq_append] at h hother
  obtain ⟨-, image, rfl, -, himage⟩ := h.of_snoc
  obtain ⟨-, other, rfl, -, hforms⟩ := hother.of_snoc
  rw [List.getLast?_append_of_ne_nil _ himage.ne_nil,
    List.getLast?_append_of_ne_nil _ hforms.ne_nil]
  rcases himage.agree hforms with rfl | ⟨⟨b, hb, rfl⟩, d, hd, rfl⟩
  · exact Or.inl rfl
  · exact Or.inr ⟨⟨b, hb, rfl⟩, d, hd, rfl⟩

theorem Lowering.ne_nil {cs ls : List Char} (h : Lowering cs ls) (hcs : cs ≠ []) : ls ≠ [] := by
  obtain rfl | ⟨before, c, rfl⟩ := List.eq_nil_or_concat cs
  · exact absurd rfl hcs
  · rw [List.concat_eq_append] at h
    obtain ⟨ls, image, rfl, -, hc⟩ := h.of_snoc
    exact List.append_ne_nil_of_right_ne_nil _ hc.ne_nil

/-! ## Endings -/

/-- A text of ASCII has as many bytes as characters. -/
theorem utf8ByteSize_of_small {cs : List Char} (h : ∀ c ∈ cs, c.toNat < 128) :
    (String.ofList cs).utf8ByteSize = cs.length := by
  induction cs with
  | nil => rfl
  | cons c cs ih =>
      obtain ⟨hc, hcs⟩ := List.forall_mem_cons.mp h
      have hone : c.utf8Size = 1 :=
        Char.utf8Size_eq_one_iff.mpr (UInt32.le_iff_toNat_le.mpr (Nat.le_of_lt_succ hc))
      rw [String.ofList_cons, String.utf8ByteSize_append, String.utf8ByteSize_singleton, hone,
        ih hcs, List.length_cons, Nat.add_comm]

/-- The text has the letters of an ending in either case. -/
def Spells (cs ending : List Char) : Prop := cs.map lowerChars = ending.map fun a => [a]

namespace Spells

theorem nil : Spells [] [] := rfl

theorem snoc {cs ending : List Char} {c a : Char} (h : Spells cs ending)
    (hc : lowerChars c = [a]) : Spells (cs ++ [c]) (ending ++ [a]) := by
  rw [Spells, List.map_append, List.map_append, h, List.map_singleton, List.map_singleton, hc]

theorem length_eq {cs ending : List Char} (h : Spells cs ending) : cs.length = ending.length := by
  simpa using congrArg List.length h

theorem of_snoc {cs ending : List Char} {a : Char} (h : Spells cs (ending ++ [a])) :
    ∃ before c, cs = before ++ [c] ∧ Spells before ending ∧ lowerChars c = [a] := by
  rcases List.eq_nil_or_concat cs with rfl | ⟨before, c, rfl⟩
  · simp [Spells] at h
  · rw [List.concat_eq_append, Spells, List.map_append, List.map_append] at h
    obtain ⟨hbefore, hc⟩ := List.append_inj' h rfl
    exact ⟨before, c, List.concat_eq_append, hbefore, List.singleton_inj.mp hc⟩

/-- A spelling of an ending has one byte for each of its letters. -/
theorem utf8ByteSize_eq {cs ending : List Char} (he : ending ⊆ endingLetters)
    (h : Spells cs ending) : (String.ofList cs).utf8ByteSize = ending.length := by
  rw [← h.length_eq]
  refine utf8ByteSize_of_small fun c hc => ?_
  obtain ⟨a, ha, hchar⟩ := List.mem_map.mp (h ▸ List.mem_map_of_mem hc)
  exact (lowerChars_of_getLast? (he ha) (by rw [← hchar, List.getLast?_singleton])).2

/-- An ending spells itself. -/
theorem self {ending : List Char} (he : ending ⊆ endingLetters) : Spells ending ending := by
  have hletters : ∀ a ∈ endingLetters, lowerChars a = [a] :=
    List.all_iff_forall_prop.mp (by decide +kernel)
  exact List.map_congr_left fun a ha => hletters a (he ha)

end Spells

namespace Lowering

variable {ending : List Char} (he : ending ⊆ endingLetters)
include he

/-- If a lower-cased text has an ending, then the text has it in some spelling. -/
theorem exists_stem {cs before : List Char} (h : Lowering cs (before ++ ending)) :
    ∃ stem last, cs = stem ++ last ∧ Spells last ending ∧ Lowering stem before := by
  induction ending using List.reverseRecOn generalizing cs with
  | nil =>
      rw [List.append_nil] at h
      exact ⟨cs, [], (List.append_nil _).symm, .nil, h⟩
  | append_singleton ending a ih =>
      rw [List.append_subset, List.cons_subset] at he
      rw [← List.append_assoc] at h
      rcases List.eq_nil_or_concat cs with rfl | ⟨cs, c, rfl⟩
      · exact absurd h.of_nil (List.append_ne_nil_of_right_ne_nil _ (List.cons_ne_nil _ _))
      rw [List.concat_eq_append] at h ⊢
      obtain ⟨ls, image, hls, hcs, hc⟩ := h.of_snoc
      -- The form of the last character ends in the last letter, so it is this letter alone.
      have hlast : image.getLast? = some a := by
        have hends := congrArg List.getLast? hls
        rwa [List.getLast?_append_of_ne_nil _ (List.cons_ne_nil _ _), List.getLast?_singleton,
          List.getLast?_append_of_ne_nil _ hc.ne_nil, eq_comm] at hends
      obtain ⟨hchar, rfl⟩ := hc.letter he.2.1 hlast
      obtain ⟨rfl, -⟩ := List.append_inj' hls rfl
      obtain ⟨stem, last, rfl, hspells, hstem⟩ := ih he.1 hcs
      exact ⟨stem, last ++ [c], List.append_assoc _ _ _, hspells.snoc hchar, hstem⟩

/-- If a text has an ending in some spelling, then the lower-cased text has it. -/
theorem of_stem {stem last ls : List Char} (hlast : Spells last ending)
    (h : Lowering (stem ++ last) ls) : ∃ before, ls = before ++ ending ∧ Lowering stem before := by
  induction ending using List.reverseRecOn generalizing last ls with
  | nil =>
      obtain rfl := List.eq_nil_of_length_eq_zero hlast.length_eq
      rw [List.append_nil] at h
      exact ⟨ls, (List.append_nil _).symm, h⟩
  | append_singleton ending a ih =>
      rw [List.append_subset, List.cons_subset] at he
      obtain ⟨last, c, rfl, hspells, hchar⟩ := hlast.of_snoc
      rw [← List.append_assoc] at h
      obtain ⟨ls, image, rfl, hcs, hc⟩ := h.of_snoc
      obtain rfl := hc.eq_letter he.2.1 hchar
      obtain ⟨before, rfl, hstem⟩ := ih he.1 hspells hcs
      exact ⟨before, List.append_assoc _ _ _, hstem⟩

end Lowering

namespace Lowering

variable {ending cs ls others : List Char} (he : ending ⊆ endingLetters) (h : Lowering cs ls)
  (hother : Lowering cs others)
include he h hother

theorem suffix_of_suffix (hends : ending <:+ ls) : ending <:+ others := by
  obtain ⟨before, rfl⟩ := hends
  obtain ⟨stem, last, rfl, hlast, -⟩ := exists_stem he h
  obtain ⟨before', rfl, -⟩ := of_stem he hlast hother
  exact List.suffix_append _ _

/-- Whatever the form of its sigmas, a lower-cased text has the same endings. -/
theorem suffix_iff : ending <:+ ls ↔ ending <:+ others :=
  ⟨suffix_of_suffix he h hother, suffix_of_suffix he hother h⟩

theorem eq_ending_of_eq (heq : ls = ending) : others = ending := by
  have hwhole : Lowering cs ([] ++ ending) := heq ▸ h
  obtain ⟨stem, last, rfl, hlast, hstem⟩ := exists_stem he hwhole
  obtain ⟨before, rfl, hbefore⟩ := of_stem he hlast hother
  obtain rfl : stem = [] := by_contra fun hne => hstem.ne_nil hne rfl
  rw [hbefore.of_nil, List.nil_append]

/-- Nor does it matter for whether the text is nothing but the ending. -/
theorem eq_ending_iff : ls = ending ↔ others = ending :=
  ⟨eq_ending_of_eq he h hother, eq_ending_of_eq he hother h⟩

end Lowering

/-- A lower-cased text has an ending exactly if the text has it in some spelling. -/
theorem isSuffixOf_lower_iff {ending cs : List Char} (he : ending ⊆ endingLetters) :
    ending.isSuffixOf (lower cs) = true ↔ ∃ stem last, cs = stem ++ last ∧ Spells last ending := by
  rw [List.isSuffixOf_iff_suffix]
  constructor
  · rintro ⟨before, hbefore⟩
    obtain ⟨stem, last, rfl, hlast, -⟩ := Lowering.exists_stem he (hbefore ▸ Lowering.lower cs)
    exact ⟨stem, last, rfl, hlast⟩
  · rintro ⟨stem, last, rfl, hlast⟩
    obtain ⟨before, hbefore, -⟩ := Lowering.of_stem he hlast (Lowering.lower (stem ++ last))
    exact ⟨before, hbefore.symm⟩

/-- What ends in such letters is lower-cased to what ends in them, whatever stands before. -/
theorem lower_append_ending {ending : List Char} (he : ending ⊆ endingLetters) (cs : List Char) :
    ∃ before, lower (cs ++ ending) = before ++ ending ∧ Lowering cs before :=
  Lowering.of_stem he (.self he) (.lower (cs ++ ending))

/-- A lower-cased text has no ending longer than the text. -/
theorem length_le_of_isSuffixOf_lower {ending cs : List Char} (he : ending ⊆ endingLetters)
    (h : ending.isSuffixOf (lower cs) = true) : ending.length ≤ cs.length := by
  obtain ⟨stem, last, rfl, hlast⟩ := (isSuffixOf_lower_iff he).mp h
  rw [← hlast.length_eq, List.length_append]
  exact Nat.le_add_left _ _

end FormScaffold.Text
