import FormScaffold.Calendar.Civil

/-!
# Days and dates

The date of a day is a date of the calendar, and the day of that date is the day.  Within an
era the year is found by a quotient that grows with the day, so it is enough to look at the
first and the last day of each of its four hundred years; within a year the month is found in
the same way.
-/

namespace FormScaffold.Calendar

/-! ## Years of an era -/

/-- Days of an era before a year of it. -/
def daysBeforeYear (y : Nat) : Nat := 365 * y + y / 4 - y / 100

/-- The days of a year that is counted from March. -/
def daysOfYear (y : Nat) : Nat :=
  if (y + 1) % 4 = 0 ∧ ((y + 1) % 100 ≠ 0 ∨ (y + 1) % 400 = 0) then 366 else 365

/-- The year of a day of an era. -/
def yearOfEra (doe : Nat) : Nat := (doe - doe / 1460 + doe / 36524 - doe / 146096) / 365

theorem yearOfEra_mono {a b : Nat} (h : a ≤ b) (hb : b < 146097) : yearOfEra a ≤ yearOfEra b := by
  unfold yearOfEra
  apply Nat.div_le_div_right
  omega

set_option maxRecDepth 100000 in
theorem yearOfEra_ends : ∀ y < 400, yearOfEra (daysBeforeYear y) = y ∧
    yearOfEra (daysBeforeYear y + daysOfYear y - 1) = y := by
  decide

set_option maxRecDepth 100000 in
theorem daysBeforeYear_succ : ∀ y < 399,
    daysBeforeYear (y + 1) = daysBeforeYear y + daysOfYear y := by
  decide

/-- A day of an era lies in the year that is found for it. -/
theorem yearOfEra_spec {doe : Nat} (h : doe < 146097) :
    yearOfEra doe < 400 ∧ daysBeforeYear (yearOfEra doe) ≤ doe ∧
      doe < daysBeforeYear (yearOfEra doe) + daysOfYear (yearOfEra doe) := by
  have hlast : yearOfEra doe ≤ yearOfEra 146096 := yearOfEra_mono (by omega) (by decide)
  have hlastYear : yearOfEra 146096 = 399 := by decide
  have hlimit : yearOfEra doe < 400 := by omega
  refine ⟨hlimit, ?_, ?_⟩
  · -- A day before the year lies in the year before at the latest.
    apply Nat.le_of_not_lt
    intro hbefore
    cases hy : yearOfEra doe with
    | zero =>
        rw [hy] at hbefore
        exact Nat.not_lt_zero doe hbefore
    | succ y =>
        rw [hy, daysBeforeYear_succ y (by omega)] at hbefore
        have hend := (yearOfEra_ends y (by omega)).2
        have hmono := yearOfEra_mono (show doe ≤ daysBeforeYear y + daysOfYear y - 1 by omega)
          (by
            have := daysBeforeYear_succ y (by omega)
            unfold daysBeforeYear at this ⊢
            omega)
        omega
  · -- A day after the year lies in the next year at the earliest.
    apply Nat.lt_of_not_le
    intro hafter
    by_cases hy : yearOfEra doe < 399
    · rw [← daysBeforeYear_succ _ hy] at hafter
      have hstart := (yearOfEra_ends (yearOfEra doe + 1) (by omega)).1
      have hmono := yearOfEra_mono hafter h
      omega
    · have hyear : yearOfEra doe = 399 := by omega
      rw [hyear] at hafter
      have hdays : daysBeforeYear 399 + daysOfYear 399 = 146097 := by decide
      omega

/-! ## Months of a year -/

/-- The month of a day of a year, counted from March. -/
def monthOfYear (doy : Nat) : Nat := (5 * doy + 2) / 153

/-- The day of its month of a day of a year. -/
def dayOfMonth (doy : Nat) : Nat := doy - (153 * monthOfYear doy + 2) / 5 + 1

/-- The number of a month that is counted from March. -/
def monthNumber (mp : Nat) : Nat := if mp < 10 then mp + 3 else mp - 9

set_option maxRecDepth 100000 in
/-- Every day of a year lies in a month, and only the last one is a leap day. -/
theorem monthOfYear_spec : ∀ doy < 366, monthOfYear doy ≤ 11 ∧
    (153 * monthOfYear doy + 2) / 5 + dayOfMonth doy - 1 = doy ∧ 1 ≤ dayOfMonth doy ∧
    dayOfMonth doy ≤ daysInMonth (if doy = 365 then 4 else 1) (monthNumber (monthOfYear doy)) := by
  decide

/-! ## The date of a day -/

/-- The parts that the date of a day is put together from. -/
theorem ofDay_eq (n : Int) : ∃ (era : Int) (doe : Nat), doe < 146097 ∧
    n = era * daysPerEra + doe - epochOffset ∧
    Date.ofDay n =
      (let yoe := yearOfEra doe
       let doy := doe - daysBeforeYear yoe
       let month := monthNumber (monthOfYear doy)
       let year : Int := yoe + era * 400
       ⟨if month ≤ 2 then year + 1 else year, month, dayOfMonth doy⟩) := by
  refine ⟨(n + epochOffset) / daysPerEra, ((n + epochOffset) % daysPerEra).toNat, ?_, ?_, rfl⟩
  · unfold daysPerEra
    omega
  · unfold daysPerEra
    omega

theorem monthNumber_back {mp : Nat} (h : mp ≤ 11) : (monthNumber mp + 9) % 12 = mp := by
  unfold monthNumber
  split <;> omega

/-- The day of the date of a day is the day. -/
theorem toDay_ofDay (n : Int) : (Date.ofDay n).toDay = n := by
  obtain ⟨era, doe, hdoe, hn, hdate⟩ := ofDay_eq n
  obtain ⟨hyear, hfrom, hto⟩ := yearOfEra_spec hdoe
  have hlength : daysOfYear (yearOfEra doe) ≤ 366 := by
    unfold daysOfYear
    split <;> omega
  obtain ⟨hmonth, hday, hfirst, -⟩ := monthOfYear_spec (doe - daysBeforeYear (yearOfEra doe))
    (by omega)
  have hcount : (if monthNumber (monthOfYear (doe - daysBeforeYear (yearOfEra doe))) ≤ 2
      then (if monthNumber (monthOfYear (doe - daysBeforeYear (yearOfEra doe))) ≤ 2
        then (yearOfEra doe : Int) + era * 400 + 1 else yearOfEra doe + era * 400) - 1
      else (if monthNumber (monthOfYear (doe - daysBeforeYear (yearOfEra doe))) ≤ 2
        then (yearOfEra doe : Int) + era * 400 + 1 else yearOfEra doe + era * 400)) =
      yearOfEra doe + era * 400 := by
    split <;> omega
  rw [hdate]
  unfold Date.toDay
  simp only [hcount, monthNumber_back hmonth, hday]
  have hera : ((yearOfEra doe : Int) + era * 400) / 400 = era := by omega
  have hyoe : (((yearOfEra doe : Int) + era * 400) % 400).toNat = yearOfEra doe := by omega
  rw [hera, hyoe, hn]
  unfold daysBeforeYear at hfrom ⊢
  omega

/-- A year has a leap day when the year from March before it is long. -/
theorem isLeapYear_iff (era : Int) (y : Nat) :
    isLeapYear ((y : Int) + era * 400 + 1) = decide (daysOfYear y = 366) := by
  unfold isLeapYear daysOfYear
  rw [Bool.eq_iff_iff]
  simp only [Bool.and_eq_true, Bool.or_eq_true, beq_iff_eq, bne_iff_ne, decide_eq_true_eq]
  split <;> omega

/-- No month is shorter than in a year without a leap day. -/
theorem daysInMonth_le {year other : Int} (month : Nat)
    (h : isLeapYear other = true → month = 2 → isLeapYear year = true) :
    daysInMonth other month ≤ daysInMonth year month := by
  unfold daysInMonth
  by_cases hmonth : month = 2
  · subst hmonth
    cases hother : isLeapYear other with
    | true => simp [h hother rfl]
    | false =>
        simp only [beq_self_eq_true, if_true, Bool.false_eq_true, if_false]
        split <;> omega
  · have hsame : ¬ (month == 2) = true := by simpa using hmonth
    exact Nat.le_of_eq (by rw [if_neg hsame, if_neg hsame])

/-- The date of a day is one of the calendar. -/
theorem isValid_ofDay (n : Int) : (Date.ofDay n).isValid = true := by
  obtain ⟨era, doe, hdoe, hn, hdate⟩ := ofDay_eq n
  obtain ⟨hyear, hfrom, hto⟩ := yearOfEra_spec hdoe
  have hlength : daysOfYear (yearOfEra doe) = 365 ∨ daysOfYear (yearOfEra doe) = 366 := by
    unfold daysOfYear
    split <;> simp
  generalize hdoy : doe - daysBeforeYear (yearOfEra doe) = doy
  obtain ⟨hmonth, -, hfirst, hlast⟩ := monthOfYear_spec doy (by omega)
  have hrange : 1 ≤ monthNumber (monthOfYear doy) ∧ monthNumber (monthOfYear doy) ≤ 12 := by
    unfold monthNumber
    split <;> omega
  have hfits : daysInMonth (if doy = 365 then 4 else 1) (monthNumber (monthOfYear doy)) ≤
      daysInMonth (if monthNumber (monthOfYear doy) ≤ 2 then (yearOfEra doe : Int) + era * 400 + 1
        else yearOfEra doe + era * 400) (monthNumber (monthOfYear doy)) := by
    refine daysInMonth_le _ fun hleap hfebruary => ?_
    -- Only a long year has a last day of the year that is a leap day.
    have hlong : doy = 365 := by
      by_cases hdoy : doy = 365
      · exact hdoy
      · rw [if_neg hdoy] at hleap
        exact absurd hleap (by decide)
    rw [hfebruary, if_pos (Nat.le_refl 2), isLeapYear_iff]
    simp only [decide_eq_true_eq]
    omega
  rw [hdate]
  unfold Date.isValid
  simp only [hdoy, Bool.and_eq_true, decide_eq_true_eq]
  exact ⟨⟨⟨hrange.1, hrange.2⟩, hfirst⟩, Nat.le_trans hlast hfits⟩

end FormScaffold.Calendar
