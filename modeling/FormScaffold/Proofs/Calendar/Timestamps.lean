import FormScaffold.Calendar.Timestamp
import FormScaffold.Proofs.Calendar.Civil
import Mathlib.Data.List.Induction
import Mathlib.Data.List.TakeWhile
import Mathlib.Tactic.Ring

/-!
# Timestamps are read back

The parts of a timestamp are numbers filled up with zeros, so they consist of digits, and of
a sign where a year has one.  A number that is written so is read back where its digits end.
The timestamp of an instant that can be represented is read as this instant, and whatever is
read from a timestamp can be represented.
-/

namespace FormScaffold.Calendar

open FormScaffold.Text

/-! ## Digits -/

theorem isDigit_of_mem_padded {width n : Nat} {c : Char} (h : c ∈ padded width n) :
    c.isDigit = true := by
  unfold padded at h
  rcases List.mem_append.mp h with hzero | hdigit
  · rw [List.eq_of_mem_replicate hzero]
    decide
  · exact Nat.isDigit_of_mem_toDigits (by decide) (by decide) hdigit

theorem length_padded {width n : Nat} (hwidth : 0 < width) (hn : n < 10 ^ width) :
    (padded width n).length = width := by
  have hshort := (Nat.length_toDigits_le_iff (by decide : 1 < 10) hwidth).mpr hn
  unfold padded
  simp only [List.length_append, List.length_replicate]
  omega

/-- The number that digits stand for. -/
def numberOf (ds : List Char) : Nat := ds.foldl (fun n c => n * 10 + (c.toNat - 48)) 0

theorem numberOf_eq (ds : List Char) : numberOf ds = Nat.ofDigitChars 10 ds 0 := by
  rw [Nat.ofDigitChars_eq_foldl]
  unfold numberOf
  simp only [Nat.mul_comm]
  rfl

theorem numberOf_padded (width n : Nat) : numberOf (padded width n) = n := by
  rw [numberOf_eq]
  unfold padded
  rw [Nat.ofDigitChars_append, Nat.ofDigitChars_replicate_zero, Nat.mul_zero,
    Nat.ofDigitChars_ten_toDigits]

/-- Digits stand for a number that needs no more of them. -/
theorem numberOf_lt {ds : List Char} (h : ∀ c ∈ ds, c.isDigit = true) :
    numberOf ds < 10 ^ ds.length := by
  induction ds using List.reverseRecOn with
  | nil => decide
  | append_singleton before c ih =>
      have hbefore := ih fun d hd => h d (by simp [hd])
      have hdigit := h c (by simp)
      have hlow : c.toNat - 48 < 10 := by
        simp only [Char.isDigit, Bool.and_eq_true, decide_eq_true_eq] at hdigit
        have := hdigit.2
        have hval : c.toNat = c.val.toNat := rfl
        have : c.val.toNat ≤ 57 := this
        omega
      unfold numberOf at hbefore ⊢
      rw [List.foldl_append, List.length_append, Nat.pow_add]
      simp only [List.foldl_cons, List.foldl_nil, List.length_singleton]
      omega

/-! ## Reading numbers -/

/-- The text does not go on with a digit. -/
def DigitsEnd (rest : List Char) : Prop := ∀ c, rest.head? = some c → c.isDigit = false

/-- Digits are read as far as they go, or as many as are wanted. -/
theorem takeNumber?_digits {least most : Nat} {ds rest : List Char}
    (hdigits : ∀ c ∈ ds, c.isDigit = true) (hleast : least ≤ ds.length)
    (hmost : ds.length ≤ most) (hrest : ds.length = most ∨ DigitsEnd rest) :
    takeNumber? least most (ds ++ rest) = some (numberOf ds, rest) := by
  have htaken : ((ds ++ rest).take most).takeWhile Char.isDigit = ds := by
    rw [List.take_append, List.take_of_length_le hmost, List.takeWhile_append_of_pos hdigits]
    have hnone : (rest.take (most - ds.length)).takeWhile Char.isDigit = [] := by
      rcases hrest with hfull | hend
      · rw [hfull, Nat.sub_self]
        rfl
      · cases rest with
        | nil => simp
        | cons c cs =>
            cases hwidth : most - ds.length with
            | zero => rfl
            | succ k =>
                rw [List.take_succ_cons, List.takeWhile_cons_of_neg]
                simp [hend c rfl]
    rw [hnone, List.append_nil]
  unfold takeNumber?
  simp only [htaken, Nat.not_lt.mpr hleast, if_false, List.drop_left]
  rfl

/-- What is read as a number is digits at the start of the text. -/
theorem takeNumber?_eq_some {least most n : Nat} {cs rest : List Char}
    (h : takeNumber? least most cs = some (n, rest)) :
    ∃ ds, cs = ds ++ rest ∧ (∀ c ∈ ds, c.isDigit = true) ∧ ds.length ≤ most ∧
      n = numberOf ds := by
  unfold takeNumber? at h
  simp only [] at h
  split at h
  · cases h
  · cases h
    refine ⟨(cs.take most).takeWhile Char.isDigit, ?_, fun c hc => ?_, ?_, rfl⟩
    · have hstart : (cs.take most).takeWhile Char.isDigit <+: cs :=
        (List.takeWhile_prefix _).trans (List.take_prefix _ _)
      exact (List.prefix_iff_eq_append.mp hstart).symm
    · exact List.mem_takeWhile_imp hc
    · exact ((List.takeWhile_prefix _).length_le).trans (List.length_take_le _ _)

theorem mem_yearText {y : Int} {c : Char} (h : c ∈ yearText y) :
    c.isDigit = true ∨ c = '-' ∨ c = '+' := by
  unfold yearText at h
  split at h
  · exact Or.inl (isDigit_of_mem_padded h)
  · rcases List.mem_cons.mp h with rfl | h
    · split
      · exact Or.inr (Or.inl rfl)
      · exact Or.inr (Or.inr rfl)
    · exact Or.inl (isDigit_of_mem_padded h)

theorem mem_compactText {t : Instant} {c : Char} (h : c ∈ t.compactText.toList) :
    c.isDigit = true ∨ c = '-' ∨ c = '+' := by
  unfold Instant.compactText at h
  rw [String.toList_ofList] at h
  simp only [List.mem_append] at h
  rcases h with ((((h | h) | h) | h) | h) | h
  · exact mem_yearText h
  all_goals exact Or.inl (isDigit_of_mem_padded h)

theorem mem_fractionText {nanos : Nat} {c : Char} (h : c ∈ fractionText nanos) :
    c.isDigit = true ∨ c = '.' := by
  have hdecimals : ∀ {width n : Nat}, c ∈ '.' :: padded width n → c.isDigit = true ∨ c = '.' :=
    fun h => (List.mem_cons.mp h).symm.imp_left isDigit_of_mem_padded
  unfold fractionText at h
  repeat' split at h
  · cases h
  all_goals exact hdecimals h

/-- A timestamp has digits and a few marks. -/
theorem mem_offsetText {t : Instant} {c : Char} (h : c ∈ t.offsetText.toList) :
    c.isDigit = true ∨ c ∈ ['-', '+', 'T', ':', '.'] := by
  unfold Instant.offsetText Instant.stamp dateText clockText at h
  rw [String.toList_ofList] at h
  simp only [List.mem_append, List.mem_cons, List.not_mem_nil, or_false] at h ⊢
  have hdigits : ∀ {width n : Nat}, c ∈ padded width n → c.isDigit = true := isDigit_of_mem_padded
  have hyear := @mem_yearText t.moment.date.year c
  have hfraction := @mem_fractionText t.moment.nanos c
  have hzero : c = '0' → c.isDigit = true := by rintro rfl; decide
  grind

/-! ## Instants that can be told -/

/-- An instant as a clock can show it and a timestamp can tell it: its year has instants, and a
leap second lies at the end of a minute. -/
structure Instant.Representable (t : Instant) : Prop where
  year : hasInstants t.moment.date.year = true
  nanos : t.nanos < 2 * nanosPerSecond
  leap : t.isLeap = true → t.seconds % 60 = 59

instance (t : Instant) : Decidable t.Representable :=
  decidable_of_iff (hasInstants t.moment.date.year = true ∧ t.nanos < 2 * nanosPerSecond ∧
      (t.isLeap = true → t.seconds % 60 = 59))
    ⟨fun ⟨year, nanos, leap⟩ => ⟨year, nanos, leap⟩, fun h => ⟨h.year, h.nanos, h.leap⟩⟩

/-! ## Parts of a timestamp -/

theorem not_blank_of_isDigit {c : Char} (h : c.isDigit = true) : isBlank c = false := by
  have hrange : 48 ≤ c.toNat ∧ c.toNat ≤ 57 := by
    simp only [Char.isDigit, Bool.and_eq_true, decide_eq_true_eq] at h
    exact h
  have hall : ∀ n, 48 ≤ n → n ≤ 57 → CodeRun.anyCovers blankRuns n = false := by
    intro n hlow hhigh
    have : n ∈ List.range' 48 10 := by
      rw [List.mem_range'_1]
      omega
    revert n
    decide
  exact hall c.toNat hrange.1 hrange.2

/-- A text that starts with something else than a blank has none to skip. -/
theorem trimStart_cons {c : Char} (h : isBlank c = false) (rest : List Char) :
    trimStart (c :: rest) = c :: rest := by
  unfold trimStart
  rw [List.dropWhile_cons_of_neg (by simp [h])]

theorem padded_cons (width n : Nat) : ∃ c cs, padded width n = c :: cs ∧ c.isDigit = true := by
  cases hpadded : padded width n with
  | nil =>
      have : Nat.toDigits 10 n = [] := by
        unfold padded at hpadded
        exact (List.append_eq_nil_iff.mp hpadded).2
      exact absurd this Nat.toDigits_ne_nil
  | cons c cs =>
      have hfirst : c ∈ padded width n := hpadded ▸ List.mem_cons_self
      exact ⟨c, cs, rfl, isDigit_of_mem_padded hfirst⟩

theorem trimStart_padded (width n : Nat) (rest : List Char) :
    trimStart (padded width n ++ rest) = padded width n ++ rest := by
  obtain ⟨c, cs, hpadded, hdigit⟩ := padded_cons width n
  rw [hpadded]
  exact trimStart_cons (not_blank_of_isDigit hdigit) _

/-- A number of the full width is read as a field of the width. -/
theorem takeField?_padded {width n : Nat} (hwidth : 0 < width) (hn : n < 10 ^ width)
    (rest : List Char) : takeField? width (padded width n ++ rest) = some (n, rest) := by
  have hlength := length_padded hwidth hn
  unfold takeField?
  rw [trimStart_padded, takeNumber?_digits (fun c hc => isDigit_of_mem_padded hc)
    (by omega) (by omega) (Or.inl hlength), numberOf_padded]

theorem takeMark?_self {mark : Char} (h : isBlank mark = false) (rest : List Char) :
    takeMark? mark (mark :: rest) = some rest := by
  unfold takeMark?
  rw [trimStart_cons h]
  simp

/-- A year is read back if a sign between dates follows. -/
theorem takeYear?_yearText (y : Int) {rest : List Char} (hrest : DigitsEnd rest) :
    takeYear? (yearText y ++ rest) = some (y, rest) := by
  have hdigits : ∀ n, ∀ c ∈ padded 4 n, c.isDigit = true := fun n c hc => isDigit_of_mem_padded hc
  have hgiven : ∀ n, 1 ≤ (padded 4 n).length := by
    intro n
    obtain ⟨c, cs, hpadded, -⟩ := padded_cons 4 n
    simp [hpadded]
  unfold yearText
  by_cases husual : (decide (0 ≤ y) && decide (y ≤ 9999)) = true
  · rw [if_pos husual]
    simp only [Bool.and_eq_true, decide_eq_true_eq] at husual
    have hlength : (padded 4 y.toNat).length = 4 := length_padded (by omega) (by omega)
    obtain ⟨c, cs, hpadded, hdigit⟩ := padded_cons 4 y.toNat
    have hread : takeNumber? 1 4 (padded 4 y.toNat ++ rest) = some (y.toNat, rest) := by
      rw [takeNumber?_digits (hdigits _) (hgiven _) (by omega) (Or.inl hlength), numberOf_padded]
    -- The first character is a digit, so no sign is taken.
    have hunsigned : takeYear? (padded 4 y.toNat ++ rest) =
        (takeNumber? 1 4 (padded 4 y.toNat ++ rest)).map fun p => ((p.1 : Int), p.2) := by
      unfold takeYear?
      rw [trimStart_padded, hpadded]
      split
      · rename_i heq
        cases heq
        cases hdigit
      · rename_i heq
        cases heq
        cases hdigit
      · rfl
    have hyear : (y.toNat : Int) = y := by omega
    rw [hunsigned, hread]
    simp only [Option.map_some, hyear]
  · rw [if_neg husual]
    -- With a sign the digits go on to where they end, however many they are.
    have hread : takeNumber? 1 (padded 4 y.natAbs ++ rest).length (padded 4 y.natAbs ++ rest) =
        some (y.natAbs, rest) := by
      rw [takeNumber?_digits (hdigits _) (hgiven _) (by simp) (Or.inr hrest), numberOf_padded]
    by_cases hneg : y < 0
    · rw [if_pos hneg, List.cons_append]
      unfold takeYear?
      have hyear : -(y.natAbs : Int) = y := by omega
      rw [trimStart_cons (by decide)]
      simp only [hread, Option.map_some, hyear]
    · rw [if_neg hneg, List.cons_append]
      unfold takeYear?
      have hyear : (y.natAbs : Int) = y := by omega
      rw [trimStart_cons (by decide)]
      simp only [hread, Option.map_some, hyear]

/-- What is no digit ends a number. -/
theorem digitsEnd_cons {c : Char} (h : c.isDigit = false) (rest : List Char) :
    DigitsEnd (c :: rest) := by
  intro d hd
  cases hd
  exact h

/-- Decimals of some width are read as the part of a second that they are. -/
theorem takeFraction?_padded {width n : Nat} (hwidth : 0 < width) (hmost : width ≤ 9)
    (hn : n < 10 ^ width) {c : Char} (hc : c.isDigit = false) (rest : List Char) :
    takeFraction? ('.' :: (padded width n ++ c :: rest)) =
      some (n * 10 ^ (9 - width), c :: rest) := by
  have hlength := length_padded hwidth hn
  have hread : takeNumber? 1 9 (padded width n ++ c :: rest) = some (n, c :: rest) := by
    rw [takeNumber?_digits (fun d hd => isDigit_of_mem_padded hd) (by omega) (by omega)
      (Or.inr (digitsEnd_cons hc rest)), numberOf_padded]
  have hdecimals : (padded width n ++ c :: rest).length - (c :: rest).length = width := by
    simp only [List.length_append, hlength]
    omega
  unfold takeFraction?
  simp only [hread, hdecimals]
  rw [List.dropWhile_cons_of_neg (by simp [hc])]
  rfl

theorem takeFraction?_fractionText {nanos : Nat} (h : nanos < nanosPerSecond) {c : Char}
    (hc : c.isDigit = false) (hpoint : c ≠ '.') (rest : List Char) :
    takeFraction? (fractionText nanos ++ c :: rest) = some (nanos, c :: rest) := by
  unfold nanosPerSecond at h
  unfold fractionText
  by_cases hnone : (nanos == 0) = true
  · rw [if_pos hnone, List.nil_append, eq_of_beq hnone]
    unfold takeFraction?
    split
    · rename_i heq
      cases heq
      exact absurd rfl hpoint
    · rfl
  rw [if_neg hnone]
  -- The shortest of three widths that loses nothing is written.
  by_cases hmillis : (nanos % 1000000 == 0) = true
  · rw [if_pos hmillis, List.cons_append,
      takeFraction?_padded (by decide) (by decide) (by omega) hc]
    have := eq_of_beq hmillis
    rw [show nanos / 1000000 * 10 ^ (9 - 3) = nanos by omega]
  rw [if_neg hmillis]
  by_cases hmicros : (nanos % 1000 == 0) = true
  · rw [if_pos hmicros, List.cons_append,
      takeFraction?_padded (by decide) (by decide) (by omega) hc]
    have := eq_of_beq hmicros
    rw [show nanos / 1000 * 10 ^ (9 - 6) = nanos by omega]
  rw [if_neg hmicros, List.cons_append,
    takeFraction?_padded (by decide) (by decide) (by omega) hc]
  rw [show nanos * 10 ^ (9 - 9) = nanos by omega]

/-! ## Date and time of day -/

theorem takeDate?_dateText {d : Date} (hmonth : d.month < 100) (hday : d.day < 100)
    (rest : List Char) : takeDate? (dateText d ++ rest) = some (d, rest) := by
  unfold takeDate? dateText
  simp only [List.append_assoc, List.cons_append]
  rw [takeYear?_yearText d.year (digitsEnd_cons (by decide) _)]
  simp only [Option.bind_eq_bind, Option.bind_some]
  rw [takeMark?_self (by decide)]
  simp only [Option.bind_some]
  rw [takeField?_padded (by decide) (by omega)]
  simp only [Option.bind_some]
  rw [takeMark?_self (by decide)]
  simp only [Option.bind_some]
  rw [takeField?_padded (by decide) (by omega)]
  rfl

theorem takeClock?_clockText {m : Moment} (hhour : m.hour < 100) (hminute : m.minute < 100)
    (hsecond : m.second < 100) (hnanos : m.nanos < nanosPerSecond) {c : Char}
    (hc : c.isDigit = false) (hpoint : c ≠ '.') (rest : List Char) :
    takeClock? (clockText m ++ (fractionText m.nanos ++ c :: rest)) =
      some (⟨m.hour, m.minute, m.second, m.nanos⟩, c :: rest) := by
  unfold takeClock? clockText
  simp only [List.append_assoc, List.cons_append]
  rw [takeField?_padded (by decide) (by omega)]
  simp only [Option.bind_eq_bind, Option.bind_some]
  rw [takeMark?_self (by decide)]
  simp only [Option.bind_some]
  rw [takeField?_padded (by decide) (by omega)]
  simp only [Option.bind_some]
  rw [takeMark?_self (by decide)]
  simp only [Option.bind_some]
  rw [takeField?_padded (by decide) (by omega)]
  simp only [Option.bind_some]
  rw [takeFraction?_fractionText hnanos hc hpoint]
  rfl

/-! ## Instants -/

/-- The parts of the civil reading of an instant are in the ranges of a date and a time. -/
theorem moment_ranges (t : Instant) : t.moment.date.month < 100 ∧ t.moment.date.day < 100 ∧
    t.moment.hour < 24 ∧ t.moment.minute < 60 ∧ t.moment.second < 61 ∧
    t.moment.nanos < nanosPerSecond := by
  have hvalid := isValid_ofDay t.day
  have hday : t.secondOfDay < 86400 := by
    unfold Instant.secondOfDay secondsPerDay
    omega
  simp only [Date.isValid, Bool.and_eq_true, decide_eq_true_eq] at hvalid
  obtain ⟨⟨⟨-, hmonth⟩, -⟩, hdays⟩ := hvalid
  have hlongest : ∀ y m, daysInMonth y m ≤ 31 := by
    intro y m
    unfold daysInMonth
    repeat' split
    all_goals omega
  have hlast := hlongest (Date.ofDay t.day).year (Date.ofDay t.day).month
  unfold Instant.moment
  simp only []
  refine ⟨by omega, by omega, by omega, by omega, ?_, Nat.mod_lt _ (by decide)⟩
  split <;> omega

/-- An instant that can be represented is put together from its civil reading. -/
theorem ofParts?_moment {t : Instant} (h : t.Representable) :
    Instant.ofParts? t.moment.date
      ⟨t.moment.hour, t.moment.minute, t.moment.second, t.moment.nanos⟩ 0 = some t := by
  obtain ⟨-, -, hhour, hminute, hsecond, -⟩ := moment_ranges t
  have hvalid : t.moment.date.isValid = true := isValid_ofDay t.day
  have hback : t.moment.date.toDay = t.day := toDay_ofDay t.day
  have hday : t.seconds = t.day * secondsPerDay + t.secondOfDay := by
    unfold Instant.day Instant.secondOfDay secondsPerDay
    omega
  have hsame : (⟨t.moment.date.toDay * secondsPerDay +
      ((t.moment.hour * 3600 + t.moment.minute * 60 : Nat) : Int) +
      (if (t.moment.second == 60) = true then 59 else (t.moment.second : Int)) - 0,
      if (t.moment.second == 60) = true then t.moment.nanos + nanosPerSecond
      else t.moment.nanos⟩ : Instant) = t := by
    -- Only a leap second is shown as second sixty.
    have hnanos := h.nanos
    have hleap := h.leap
    have hofDay : t.seconds % 60 = (t.secondOfDay % 60 : Nat) := by
      unfold Instant.secondOfDay secondsPerDay
      omega
    have hsecond : t.moment.second = t.secondOfDay % 60 + (if t.isLeap then 1 else 0) := rfl
    have hclock : t.moment.hour * 3600 + t.moment.minute * 60 = t.secondOfDay / 60 * 60 := by
      change t.secondOfDay / 3600 * 3600 + t.secondOfDay / 60 % 60 * 60 = _
      omega
    have hfraction : t.moment.nanos = t.nanos % nanosPerSecond := rfl
    rw [hback, hclock, hfraction, hsecond]
    unfold nanosPerSecond at hnanos ⊢
    cases hcase : t.isLeap with
    | true =>
        have hsixty : (t.secondOfDay % 60 + (if true then 1 else 0) == 60) = true := by
          have := hleap hcase
          simp only [if_true, beq_iff_eq]
          omega
        have hmore : 1000000000 ≤ t.nanos := of_decide_eq_true hcase
        have := hleap hcase
        rw [if_pos hsixty, if_pos hsixty]
        obtain ⟨seconds, nanos⟩ := t
        simp only [Instant.mk.injEq] at *
        omega
    | false =>
        have hless : ¬ (t.secondOfDay % 60 + (if false then 1 else 0) == 60) = true := by
          simp only [Bool.false_eq_true, if_false, beq_iff_eq]
          omega
        have hfew : t.nanos < 1000000000 := Nat.lt_of_not_le (of_decide_eq_false hcase)
        rw [if_neg hless, if_neg hless]
        obtain ⟨seconds, nanos⟩ := t
        simp only [Bool.false_eq_true, if_false, Nat.add_zero, Instant.mk.injEq] at *
        omega
  unfold Instant.ofParts?
  simp only [hvalid, h.year, Bool.not_true, Bool.or_false, Bool.false_eq_true, if_false]
  rw [if_neg (by simp only [Bool.or_eq_true, decide_eq_true_eq]; omega), hsame, if_pos h.year]

/-- The timestamp of an instant that can be represented is read as the instant. -/
theorem ofText?_zuluText {t : Instant} (h : t.Representable) :
    Instant.ofText? t.zuluText = some t := by
  obtain ⟨hmonth, hday, hhour, hminute, hsecond, hnanos⟩ := moment_ranges t
  have hz : isBlank 'Z' = false := by decide
  unfold Instant.ofText? Instant.withOffset? Instant.zuluText Instant.stamp
  simp only [String.toList_ofList, List.append_assoc, List.cons_append]
  rw [takeDate?_dateText hmonth hday]
  have hseparator : ∀ r, takeSeparator? ('T' :: r) = some r := fun _ => rfl
  simp only [Option.bind_eq_bind, Option.bind_some, hseparator]
  rw [takeClock?_clockText (by omega) (by omega) (by omega) hnanos (by decide) (by decide)]
  simp only [Option.bind_some, trimStart_cons hz, takeOffset?]
  rw [ofParts?_moment h]
  rfl

/-! ## What is read can be represented -/

theorem takeFraction?_lt {cs rest : List Char} {nanos : Nat}
    (h : takeFraction? cs = some (nanos, rest)) : nanos < nanosPerSecond := by
  unfold takeFraction? at h
  split at h
  · rename_i after
    split at h
    · cases h
    · rename_i n left hnumber
      cases h
      obtain ⟨ds, rfl, hdigits, hmost, rfl⟩ := takeNumber?_eq_some hnumber
      have hwidth : (ds ++ left).length - left.length = ds.length := by simp
      have hsmall := numberOf_lt hdigits
      rw [hwidth, Nat.pow_eq]
      calc numberOf ds * 10 ^ (9 - ds.length)
          < 10 ^ ds.length * 10 ^ (9 - ds.length) :=
            (Nat.mul_lt_mul_right (Nat.pow_pos (by decide))).mpr hsmall
        _ = 10 ^ 9 := by rw [← Nat.pow_add, Nat.add_sub_cancel' hmost]
  · cases h
    decide

/-- An offset is a number of whole minutes. -/
theorem takeOffset?_minutes {cs rest : List Char} {offset : Int}
    (h : takeOffset? cs = some (offset, rest)) : offset % 60 = 0 := by
  unfold takeOffset? at h
  split at h
  · cases h
    rfl
  · cases h
    rfl
  · split at h
    · cases h
      rfl
    · simp only [] at h
      split at h
      · rename_i s hour left hsign hhour
        split at h
        · rename_i minute left' hminute
          split at h
          · cases h
            -- Hours and minutes are whole minutes, whatever the sign.
            have hparts : s * ((hour * 3600 + minute * 60 : Nat) : Int) =
                60 * (s * ((hour * 60 + minute : Nat) : Int)) := by
              push_cast
              ring
            rw [hparts]
            exact Int.mul_emod_right 60 _
          · cases h
        · cases h
      · cases h
  · cases h

theorem ofParts?_representable {date : Date} {clock : Clock} {offset : Int} {t : Instant}
    (hnanos : clock.nanos < nanosPerSecond) (hoffset : offset % 60 = 0)
    (h : Instant.ofParts? date clock offset = some t) : t.Representable := by
  unfold Instant.ofParts? at h
  by_cases hdate : (!date.isValid || !hasInstants date.year) = true
  · rw [if_pos hdate] at h
    cases h
  rw [if_neg hdate] at h
  split at h
  · cases h
  -- A sixtieth second is the leap part of the one before, and no other instant is a leap one.
  by_cases hsixty : (clock.second == 60) = true
  · simp only [hsixty, if_true] at h
    obtain ⟨hyear, heq⟩ := Option.ite_none_right_eq_some.mp h
    cases heq
    refine ⟨hyear, Nat.lt_of_lt_of_le (Nat.add_lt_add_right hnanos _) (by omega), fun _ => ?_⟩
    simp only []
    unfold secondsPerDay
    omega
  · simp only [hsixty, if_false, Bool.false_eq_true] at h
    obtain ⟨hyear, heq⟩ := Option.ite_none_right_eq_some.mp h
    cases heq
    refine ⟨hyear, Nat.lt_of_lt_of_le hnanos (by omega), fun hleap => ?_⟩
    exact absurd hnanos (Nat.not_lt.mpr (of_decide_eq_true hleap))

/-- What is read from a timestamp can be represented. -/
theorem representable_of_ofText? {s : String} {t : Instant} (h : Instant.ofText? s = some t) :
    t.Representable := by
  unfold Instant.ofText? Instant.withOffset? at h
  simp only [Option.map_eq_some_iff, Option.bind_eq_bind, Option.bind_eq_some_iff] at h
  obtain ⟨⟨t', offset'⟩,
    ⟨⟨date, r₁⟩, -, r₂, -, ⟨clock, r₃⟩, hclock, ⟨offset, r₄⟩, hoffset, h⟩, rfl⟩ := h
  split at h
  · cases h
  · obtain ⟨t, hparts, heq⟩ := Option.bind_eq_some_iff.mp h
    cases heq
    refine ofParts?_representable ?_ (takeOffset?_minutes hoffset) hparts
    unfold takeClock? at hclock
    simp only [Option.bind_eq_bind, Option.bind_eq_some_iff] at hclock
    obtain ⟨_, _, _, _, _, _, _, _, _, _, ⟨nanos, r₅⟩, hfraction, hsame⟩ := hclock
    cases hsame
    exact takeFraction?_lt hfraction

end FormScaffold.Calendar
