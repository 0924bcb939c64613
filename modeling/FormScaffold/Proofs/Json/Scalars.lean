import FormScaffold.Json.Reader
import FormScaffold.Json.Writer

/-!
# Integers and texts in JSON

An integer of the 64-bit ranges is read back from its digits, where the text does not go on as
a number does.  Each character of a text is written as itself or as an escape, and what is written
is read back as the character, up to the closing quote.
-/

namespace FormScaffold.Json

open FormScaffold.Decimal

/-! ## Integers -/

/-- The text does not go on as a number does. -/
def NumberEnds (rest : List Char) : Prop :=
  ∀ c, rest.head? = some c → digit? c = none ∧ c ≠ '.' ∧ c ≠ 'e' ∧ c ≠ 'E'

theorem numberEnds_nil : NumberEnds [] := by
  intro c hc
  cases hc

theorem numberEnds_cons {c : Char} (hdigit : digit? c = none) (hpoint : c ≠ '.')
    (hsmall : c ≠ 'e') (hlarge : c ≠ 'E') (rest : List Char) : NumberEnds (c :: rest) := by
  intro d hd
  cases hd
  exact ⟨hdigit, hpoint, hsmall, hlarge⟩

theorem digit?_of_isDigit {c : Char} (h : c.isDigit = true) : digit? c = some (c.toNat - 48) := by
  unfold digit?
  simp only [Char.isDigit, Bool.and_eq_true, decide_eq_true_eq] at h
  have hrange : (decide ('0' ≤ c) && decide (c ≤ '9')) = true := by
    simp only [Bool.and_eq_true, decide_eq_true_eq]
    exact h
  rw [if_pos hrange]

theorem le_ofDigitChars (ds : List Char) (n : Nat) : n ≤ Nat.ofDigitChars 10 ds n := by
  induction ds generalizing n with
  | nil => simp
  | cons c ds ih =>
      rw [Nat.ofDigitChars_cons]
      exact Nat.le_trans (by omega) (ih _)

/-- Digits are gathered up to where they end, if their number stays below the limit. -/
theorem takeDigits_digits {ds rest : List Char} {n count : Nat}
    (hdigits : ∀ c ∈ ds, c.isDigit = true) (hlimit : Nat.ofDigitChars 10 ds n < significandLimit)
    (hrest : NumberEnds rest) :
    takeDigits n count (ds ++ rest) =
      (Nat.ofDigitChars 10 ds n, count + ds.length, rest) := by
  induction ds generalizing n count with
  | nil =>
      cases rest with
      | nil => rfl
      | cons c rest =>
          rw [List.nil_append, takeDigits, (hrest c rfl).1]
          simp
  | cons c ds ih =>
      have hdigit := digit?_of_isDigit (hdigits c List.mem_cons_self)
      have hnext : n * 10 + (c.toNat - 48) = 10 * n + (c.toNat - '0'.toNat) := by
        rw [Nat.mul_comm]
        rfl
      rw [Nat.ofDigitChars_cons, ← hnext] at hlimit ⊢
      have hsmall := Nat.lt_of_le_of_lt (le_ofDigitChars ds _) hlimit
      rw [List.cons_append, takeDigits, hdigit]
      simp only [hsmall, if_true]
      rw [ih (fun d hd => hdigits d (List.mem_cons_of_mem _ hd)) hlimit]
      simp only [List.length_cons, Nat.add_assoc, Nat.add_comm 1]

theorem skipDigits_of_numberEnds {rest : List Char} (h : NumberEnds rest) :
    skipDigits rest = (0, rest) := by
  unfold skipDigits
  cases rest with
  | nil => rfl
  | cons c rest =>
      have hno : ¬ (digit? c).isSome = true := by
        rw [(h c rfl).1]
        simp
      simp only [List.takeWhile_cons, List.dropWhile_cons, hno]
      rfl

/-- The digits of a positive number do not start with zero. -/
theorem toDigits_pos {n : Nat} (h : 0 < n) :
    ∃ c ds, Nat.toDigits 10 n = c :: ds ∧ c ≠ '0' := by
  induction n using Nat.strongRecOn with
  | ind n ih =>
      by_cases hsmall : n < 10
      · refine ⟨n.digitChar, [], Nat.toDigits_of_lt_base hsmall, ?_⟩
        have hall : ∀ m < 10, 0 < m → m.digitChar ≠ '0' := by decide
        exact hall n hsmall h
      · obtain ⟨c, ds, hdigits, hc⟩ := ih (n / 10) (by omega) (by omega)
        refine ⟨c, ds ++ [(n % 10).digitChar], ?_, hc⟩
        rw [Nat.toDigits_of_base_le (by decide) (by omega), hdigits]
        rfl

theorem readUnsigned_digitsOf (negative : Bool) {n : Nat} (h : n < significandLimit)
    {rest : List Char} (hrest : NumberEnds rest) :
    readUnsigned negative (digitsOf n ++ rest) = .ok (integerOf negative n, rest) := by
  rcases Nat.eq_zero_or_pos n with rfl | hpos
  · change readUnsigned negative ('0' :: rest) = .ok (integerOf negative 0, rest)
    cases rest with
    | nil => rfl
    | cons c rest =>
        obtain ⟨hdigit, hpoint, hsmall, hlarge⟩ := hrest c rfl
        simp [readUnsigned, hdigit, hpoint, hsmall, hlarge]
  · have hdigits : ∀ c ∈ digitsOf n, c.isDigit = true := fun c hc =>
      Nat.isDigit_of_mem_toDigits (by decide) (by decide) hc
    have hnumber : Nat.ofDigitChars 10 (digitsOf n) 0 = n := Nat.ofDigitChars_ten_toDigits
    have htaken : takeDigits 0 0 (digitsOf n ++ rest) = (n, 0 + (digitsOf n).length, rest) := by
      rw [takeDigits_digits hdigits (hnumber.symm ▸ h) hrest, hnumber]
    -- The reader treats a leading zero on its own, so the first digit matters.
    obtain ⟨c, ds, hcons, hzero⟩ := toDigits_pos hpos
    have hfirst : digitsOf n = c :: ds := hcons
    have hdigit : (digit? c).isSome = true := by
      rw [digit?_of_isDigit (hdigits c (hfirst ▸ List.mem_cons_self))]
      rfl
    rw [hfirst, List.cons_append] at htaken ⊢
    rw [readUnsigned]
    · simp only [hdigit, if_true, htaken, skipDigits_of_numberEnds hrest]
      cases rest with
      | nil => rfl
      | cons d rest =>
          obtain ⟨-, hpoint, hsmall, hlarge⟩ := hrest d rfl
          split
          · rename_i hdot
            cases hdot
            exact absurd rfl hpoint
          · simp [hsmall, hlarge]
    · exact hzero

/-! ## Texts in quotes -/

theorem hexValue?_hexDigit : ∀ d < 16, hexValue? (hexDigit d) = some d := by
  decide

theorem readHex4_control {n : Nat} (h : n < 32) (rest : List Char) :
    readHex4 ('0' :: '0' :: hexDigit (n / 16) :: hexDigit (n % 16) :: rest) = .ok (n, rest) := by
  have hzero : hexValue? '0' = some 0 := by decide
  have hhigh := hexValue?_hexDigit (n / 16) (by omega)
  have hlow := hexValue?_hexDigit (n % 16) (by omega)
  have hsum : ((0 * 16 + 0) * 16 + n / 16) * 16 + n % 16 = n := by omega
  unfold readHex4
  simp only [hzero, hhigh, hlow, hsum]

/-- A control character is written by its number. -/
theorem readEscape_control {c : Char} (h : c.toNat < 32) (rest : List Char) :
    readEscape ('u' :: '0' :: '0' :: hexDigit (c.toNat / 16) :: hexDigit (c.toNat % 16) :: rest) =
      .ok (c, rest) := by
  have hunit : isLowSurrogate c.toNat = false ∧ isHighSurrogate c.toNat = false := by
    unfold isLowSurrogate isHighSurrogate
    simp only [Bool.and_eq_false_iff, decide_eq_false_iff_not]
    omega
  unfold readEscape readUnicode
  simp [readHex4_control h, hunit, bind, Except.bind]

/-- The written form of a character is read as the character. -/
theorem readStringFrom_escapeChar (fuel : Nat) (acc : List Char) (c : Char) (rest : List Char) :
    readStringFrom (fuel + 1) acc (escapeChar c ++ rest) =
      readStringFrom fuel (c :: acc) rest := by
  unfold escapeChar
  split
  · rfl
  · rfl
  · rfl
  · rfl
  · rfl
  · rename_i hquote hslash _ _ _
    split
    · rename_i hback
      have hc : c = Char.ofNat 8 := by
        rw [← Char.ofNat_toNat c, eq_of_beq hback]
      rw [hc]
      rfl
    split
    · rename_i hfeed
      have hc : c = Char.ofNat 12 := by
        rw [← Char.ofNat_toNat c, eq_of_beq hfeed]
      rw [hc]
      rfl
    split
    · rename_i hcontrol
      have hescape := readEscape_control hcontrol rest
      simp only [List.cons_append, List.nil_append]
      rw [readStringFrom]
      simp only [hescape]
    · rename_i hplain
      simp only [List.cons_append, List.nil_append]
      rw [readStringFrom]
      · simp [hplain]
      · exact hquote
      · exact hslash

theorem readStringFrom_flatMap (cs acc rest : List Char) {fuel : Nat} (h : cs.length < fuel) :
    readStringFrom fuel acc (cs.flatMap escapeChar ++ '"' :: rest) =
      .ok (String.ofList (acc.reverse ++ cs), rest) := by
  induction cs generalizing acc fuel with
  | nil =>
      obtain ⟨more, rfl⟩ := Nat.exists_eq_succ_of_ne_zero (Nat.ne_of_gt h)
      simp [readStringFrom]
  | cons c cs ih =>
      obtain ⟨more, rfl⟩ := Nat.exists_eq_succ_of_ne_zero (Nat.ne_of_gt (Nat.zero_lt_of_lt h))
      rw [List.flatMap_cons, List.append_assoc, readStringFrom_escapeChar,
        ih (c :: acc) (Nat.lt_of_succ_lt_succ h)]
      simp

theorem length_le_flatMap_escapeChar (cs : List Char) :
    cs.length ≤ (cs.flatMap escapeChar).length := by
  have hone : ∀ c, 1 ≤ (escapeChar c).length := by
    intro c
    unfold escapeChar
    repeat' split
    all_goals simp
  induction cs with
  | nil => simp
  | cons c cs ih =>
      have := hone c
      rw [List.flatMap_cons, List.length_append, List.length_cons]
      omega

/-- A text in quotes is read back from after its opening quote. -/
theorem readString_quoted (s : String) (rest : List Char) :
    readString (s.toList.flatMap escapeChar ++ '"' :: rest) = .ok (s, rest) := by
  have hlength := length_le_flatMap_escapeChar s.toList
  unfold readString
  rw [readStringFrom_flatMap, List.reverse_nil, List.nil_append, String.ofList_toList]
  rw [List.length_append]
  omega

/-! ## Texts without escapes -/

/-- A character stands for itself in a text in quotes. -/
def IsVerbatim (c : Char) : Prop := c ≠ '"' ∧ c ≠ '\\' ∧ 32 ≤ c.toNat

instance (c : Char) : Decidable (IsVerbatim c) :=
  inferInstanceAs (Decidable (c ≠ '"' ∧ c ≠ '\\' ∧ 32 ≤ c.toNat))

/-- A character is written as itself, or with more than one character. -/
theorem escapeChar_cases (c : Char) :
    (IsVerbatim c ∧ escapeChar c = [c]) ∨ (¬ IsVerbatim c ∧ 1 < (escapeChar c).length) := by
  by_cases h : IsVerbatim c
  · obtain ⟨hquote, hslash, hcontrol⟩ := h
    refine Or.inl ⟨⟨hquote, hslash, hcontrol⟩, ?_⟩
    unfold escapeChar
    split
    · exact absurd rfl hquote
    · exact absurd rfl hslash
    · exact absurd hcontrol (by decide)
    · exact absurd hcontrol (by decide)
    · exact absurd hcontrol (by decide)
    · have hback : (c.toNat == 8) = false := by simp; omega
      have hfeed : (c.toNat == 12) = false := by simp; omega
      rw [hback, hfeed, if_neg (Nat.not_lt.mpr hcontrol)]
      rfl
  · refine Or.inr ⟨h, ?_⟩
    unfold escapeChar
    split
    · decide
    · decide
    · decide
    · decide
    · decide
    · rename_i hquote hslash _ _ _
      have hcontrol : c.toNat < 32 :=
        Nat.lt_of_not_le fun hlarge => h ⟨hquote, hslash, hlarge⟩
      rw [if_pos hcontrol]
      repeat' split
      all_goals simp

/-- A text is written as itself only if all its characters stand for themselves. -/
theorem flatMap_escapeChar_eq_self {cs : List Char} :
    cs.flatMap escapeChar = cs ↔ ∀ c ∈ cs, IsVerbatim c := by
  induction cs with
  | nil => simp
  | cons c cs ih =>
      rw [List.flatMap_cons, List.forall_mem_cons, ← ih]
      obtain ⟨hverbatim, hself⟩ | ⟨hmarked, hlong⟩ := escapeChar_cases c
      · rw [hself, List.singleton_append, List.cons_eq_cons]
        exact ⟨fun h => ⟨hverbatim, h.2⟩, fun h => ⟨rfl, h.2⟩⟩
      · refine ⟨fun h => ?_, fun h => absurd h.1 hmarked⟩
        have hlength := congrArg List.length h
        have hrest := length_le_flatMap_escapeChar cs
        rw [List.length_append, List.length_cons] at hlength
        omega

end FormScaffold.Json
