import Mathlib.Order.Monotone.Basic
import SolrRequest.Calendar.Date

/-!
# Numbers of days

A date is found again from its day number. The guess at the year is off by one at most, since the
start of a year differs from its share of four hundred years by less than two days, and the month is
found by taking whole months away.
-/

namespace SolrRequest

namespace Calendar

theorem isLeap_iff (year : Nat) :
    isLeap year = true ↔ year % 4 = 0 ∧ (year % 100 ≠ 0 ∨ year % 400 = 0) := by
  simp [isLeap]

theorem daysBeforeYear_add_one (years : Nat) :
    daysBeforeYear (years + 1) = years * 365 + years / 4 - years / 100 + years / 400 := rfl

theorem daysBeforeYear_succ {year : Nat} (positive : 1 ≤ year) :
    daysBeforeYear (year + 1) = daysBeforeYear year + if isLeap year then 366 else 365 := by
  obtain ⟨years, rfl⟩ := Nat.exists_eq_add_of_le' positive
  rw [daysBeforeYear_add_one, daysBeforeYear_add_one, Nat.succ_div, Nat.succ_div, Nat.succ_div]
  simp only [isLeap_iff, Nat.dvd_iff_mod_eq_zero]
  have fewer : years / 100 ≤ years / 4 := by omega
  have ofHundred : (years + 1) % 100 = 0 → (years + 1) % 4 = 0 := by omega
  have ofFourHundred : (years + 1) % 400 = 0 → (years + 1) % 100 = 0 := by omega
  by_cases four : (years + 1) % 4 = 0
  · by_cases hundred : (years + 1) % 100 = 0
    · by_cases fourHundred : (years + 1) % 400 = 0 <;> simp [four, hundred, fourHundred] <;> omega
    · simp [four, hundred, mt ofFourHundred hundred]
      omega
  · have hundred := mt ofHundred four
    simp [four, hundred, mt ofFourHundred hundred]
    omega

theorem daysBeforeYear_mono {first second : Nat} (order : first ≤ second) :
    daysBeforeYear first ≤ daysBeforeYear second := by
  unfold daysBeforeYear
  dsimp only
  have fourths : (first - 1) / 4 ≤ (second - 1) / 4 := by omega
  have fourHundredths : (first - 1) / 400 ≤ (second - 1) / 400 := by omega
  have hundredths : (second - 1) / 100 ≤ (first - 1) / 100 + (second - first) := by omega
  omega

/-- The start of a year differs from its share of four hundred years by less than two days. -/
theorem daysBeforeYear_share (years : Nat) :
    146097 * years ≤ 400 * daysBeforeYear (years + 1) + 699 ∧
      400 * daysBeforeYear (years + 1) ≤ 146097 * years + 396 := by
  rw [daysBeforeYear_add_one]
  constructor <;> omega

theorem yearOfDay_eq {year number : Nat} (positive : 1 ≤ year)
    (after : daysBeforeYear year < number) (within : number ≤ daysBeforeYear (year + 1)) :
    yearOfDay number = year := by
  obtain ⟨years, rfl⟩ := Nat.exists_eq_add_of_le' positive
  have share := daysBeforeYear_share years
  have nextShare := daysBeforeYear_share (years + 1)
  have guess : (number - 1) * 400 / 146097 = years + 1 ∨ (number - 1) * 400 / 146097 = years ∨
      (number - 1) * 400 / 146097 + 1 = years := by omega
  unfold yearOfDay
  dsimp only
  rcases guess with above | exactly | below
  · rw [above, if_pos (by omega)]
    rfl
  · rw [exactly, if_neg (by omega), if_neg (by omega)]
  · have earlier := daysBeforeYear_mono (Nat.le_add_right years 1)
    rw [below, if_neg (by omega), if_pos (by omega)]
theorem daysBeforeMonth_succ (year : Nat) {month : Nat} (positive : 1 ≤ month) :
    daysBeforeMonth year (month + 1) = daysBeforeMonth year month + daysInMonth year month := by
  obtain ⟨m, rfl⟩ := Nat.exists_eq_add_of_le' positive
  rfl

theorem daysBeforeMonth_mono (year : Nat) : Monotone (daysBeforeMonth year) := by
  apply monotone_nat_of_le_succ
  intro month
  cases month with
  | zero => exact Nat.le_refl 0
  | succ m => exact Nat.le_add_right _ _

/-- The days of a month lie within the year. -/
theorem daysBeforeMonth_add_le (year : Nat) {month day : Nat} (inYear : month ≤ 12)
    (inMonth : day ≤ daysInMonth year month) :
    daysBeforeMonth year month + day ≤ if isLeap year then 366 else 365 := by
  have whole : daysBeforeMonth year 12 + 31 = if isLeap year then 366 else 365 := by
    cases leap : isLeap year <;> simp [daysBeforeMonth, daysInMonth, leap]
  rcases Nat.eq_or_lt_of_le inYear with december | earlier
  · subst december
    have := daysInMonth_le year 12
    omega
  · cases month with
    | zero =>
      have := daysInMonth_le year 0
      have first : daysBeforeMonth year 0 = 0 := rfl
      omega
    | succ m =>
      have next := daysBeforeMonth_succ year (Nat.le_add_left 1 m)
      have order := daysBeforeMonth_mono year (show m + 1 + 1 ≤ 12 by omega)
      omega

theorem monthAndDay_eq (year : Nat) {later start month day : Nat} (positive : 1 ≤ start)
    (notBefore : start ≤ month) (reached : month ≤ start + later)
    (inMonth : 1 ≤ day ∧ day ≤ daysInMonth year month) :
    monthAndDay year later start
      (daysBeforeMonth year month + day - daysBeforeMonth year start) = (month, day) := by
  induction later generalizing start with
  | zero =>
    have same : start = month := by omega
    subst same
    rw [monthAndDay, Nat.add_sub_cancel_left]
  | succ later inductionHypothesis =>
    rw [monthAndDay]
    by_cases same : start = month
    · subst same
      rw [Nat.add_sub_cancel_left, if_pos inMonth.2]
    · have next := daysBeforeMonth_succ year positive
      have order := daysBeforeMonth_mono year (show start + 1 ≤ month by omega)
      have result := inductionHypothesis (show 1 ≤ start + 1 by omega) (by omega) (by omega)
      rw [if_neg (by omega), Nat.sub_sub, ← next]
      exact result

end Calendar

open Calendar

namespace Date

theorem of_eq_ok (d : Date) : of d.year d.month d.day = .ok d := by
  rw [of, dif_pos d.year_bounds, dif_pos d.month_bounds, dif_pos d.day_bounds]

theorem dayOfYear_le (d : Date) : d.dayOfYear ≤ if isLeap d.year then 366 else 365 :=
  daysBeforeMonth_add_le d.year d.month_bounds.2 d.day_bounds.2

theorem one_le_dayOfYear (d : Date) : 1 ≤ d.dayOfYear :=
  Nat.le_add_left_of_le d.day_bounds.1

theorem ofDayNumber?_dayNumber (d : Date) : ofDayNumber? d.dayNumber = some d := by
  obtain ⟨yearPositive, yearBound⟩ := d.year_bounds
  have positive := d.one_le_dayOfYear
  have after : daysBeforeYear d.year < d.dayNumber := by
    rw [dayNumber]
    omega
  have within : d.dayNumber ≤ daysBeforeYear (d.year + 1) := by
    rw [dayNumber, daysBeforeYear_succ yearPositive]
    exact Nat.add_le_add_left d.dayOfYear_le _
  have last : d.dayNumber ≤ lastDay :=
    Nat.le_trans within (daysBeforeYear_mono (show d.year + 1 ≤ 10000 by omega))
  have month : monthAndDay d.year 11 1 (d.dayNumber - daysBeforeYear d.year) =
      (d.month, d.day) := by
    rw [dayNumber, Nat.add_sub_cancel_left]
    exact monthAndDay_eq d.year (Nat.le_refl 1) d.month_bounds.1
      (by have := d.month_bounds.2; omega) d.day_bounds
  rw [ofDayNumber?, if_pos (by omega)]
  simp only [Int.toNat_natCast, yearOfDay_eq yearPositive after within, month, of?, of_eq_ok]
  rfl

theorem plusDays_eq_ok {d e : Date} {days : Int}
    (distance : (d.dayNumber : Int) + days = e.dayNumber) : d.plusDays days = .ok e := by
  rw [plusDays, distance, ofDayNumber?_dayNumber]

/-- A date is reached from the first day of its year. -/
theorem exists_newYear (d : Date) : ∃ first, of d.year 1 1 = .ok first ∧
    first.plusDays ((d.dayOfYear : Int) - 1) = .ok d := by
  have january : 1 ≤ 1 ∧ 1 ≤ daysInMonth d.year 1 := by
    rw [daysInMonth, if_neg (by decide), if_neg (by decide)]
    decide
  let first : Date := ⟨d.year, 1, 1, d.year_bounds, by decide, january⟩
  refine ⟨first, of_eq_ok first, plusDays_eq_ok ?_⟩
  have start : first.dayNumber = daysBeforeYear d.year + 1 := rfl
  rw [start, dayNumber]
  omega

end Date

end SolrRequest
