import SolrRequest.Proofs.Calendar.WallClock

/-!
# Days counted from the start of a year

A day that is counted on from the start of a year is a day of that year, with the number it was
counted by, as long as the count stays within the year. Else year and number both differ.
-/

namespace SolrRequest

open Calendar

namespace Calendar

def daysInYear (year : Nat) : Nat :=
  if isLeap year then 366 else 365

theorem le_daysInYear (year : Nat) : 365 ≤ daysInYear year := by
  unfold daysInYear
  split <;> decide

/-- A later year starts after the whole of an earlier one. -/
theorem daysBeforeYear_add_le {first second : Nat} (positive : 1 ≤ first) (order : first < second) :
    daysBeforeYear first + daysInYear first ≤ daysBeforeYear second := by
  have next : daysBeforeYear (first + 1) = daysBeforeYear first + daysInYear first :=
    daysBeforeYear_succ positive
  rw [← next]
  exact daysBeforeYear_mono order

theorem daysBeforeYear_add_years_le {year : Nat} (positive : 1 ≤ year) (years : Nat) :
    daysBeforeYear year + 365 * years ≤ daysBeforeYear (year + years) := by
  induction years with
  | zero => exact Nat.le_refl _
  | succ years inductionHypothesis =>
    calc daysBeforeYear year + 365 * (years + 1)
      _ = daysBeforeYear year + 365 * years + 365 := by rw [Nat.mul_succ, Nat.add_assoc]
      _ ≤ daysBeforeYear (year + years) + daysInYear (year + years) :=
        Nat.add_le_add inductionHypothesis (le_daysInYear _)
      _ ≤ daysBeforeYear (year + (years + 1)) :=
        daysBeforeYear_add_le (Nat.le_add_right_of_le positive) (Nat.lt_add_one _)

end Calendar

namespace Date

theorem ofDayNumber?_eq_some_iff {number : Int} {d : Date} :
    ofDayNumber? number = some d ↔ (d.dayNumber : Int) = number := by
  constructor
  · intro found
    have inside : 1 ≤ number ∧ number ≤ lastDay := by
      rw [ofDayNumber?] at found
      split at found
      · next inside => exact inside
      · cases found
    obtain ⟨n, rfl⟩ := Int.eq_ofNat_of_zero_le (by omega : 0 ≤ number)
    obtain ⟨e, same⟩ := exists_dayNumber_eq (by omega : 1 ≤ n) (by omega)
    rw [← same, ofDayNumber?_dayNumber] at found
    cases found
    exact congrArg _ same
  · rintro rfl
    exact d.ofDayNumber?_dayNumber

theorem plusDays_eq_ok_iff {d e : Date} {days : Int} :
    d.plusDays days = .ok e ↔ (d.dayNumber : Int) + days = e.dayNumber := by
  refine ⟨fun counted => ?_, plusDays_eq_ok⟩
  rw [plusDays] at counted
  split at counted
  · next found =>
    cases counted
    exact (ofDayNumber?_eq_some_iff.mp found).symm
  · cases counted

/-- What is counted from the start of a year, beginning with one. -/
def IsDayFrom (year n : Nat) (e : Date) : Prop :=
  e.dayNumber = daysBeforeYear year + n

theorem isDayFrom_of_plusDays {year n : Nat} {first e : Date} (started : of year 1 1 = .ok first)
    (counted : first.plusDays ((n : Int) - 1) = .ok e) : 1 ≤ year ∧ IsDayFrom year n e := by
  have told : first.year = year ∧ first.dayOfYear = 1 := by
    unfold of at started
    split_ifs at started
    cases started
    exact ⟨rfl, rfl⟩
  have number := plusDays_eq_ok_iff.mp counted
  rw [dayNumber, told.1, told.2] at number
  refine ⟨told.1 ▸ first.year_bounds.1, ?_⟩
  rw [IsDayFrom]
  omega

namespace IsDayFrom

variable {year n : Nat} {e : Date}

theorem count (counted : IsDayFrom year n e) :
    daysBeforeYear e.year + e.dayOfYear = daysBeforeYear year + n :=
  counted

theorem dayOfYear_bounds (e : Date) : 1 ≤ e.dayOfYear ∧ e.dayOfYear ≤ daysInYear e.year :=
  ⟨e.one_le_dayOfYear, e.dayOfYear_le⟩

theorem year_eq_iff (counted : IsDayFrom year n e) (positive : 1 ≤ year) :
    e.year = year ↔ 1 ≤ n ∧ n ≤ daysInYear year := by
  have count := counted.count
  have bounds := dayOfYear_bounds e
  constructor
  · rintro rfl
    omega
  · rintro ⟨least, most⟩
    rcases Nat.lt_trichotomy e.year year with earlier | same | later
    · have order := daysBeforeYear_add_le e.year_bounds.1 earlier
      omega
    · exact same
    · have order := daysBeforeYear_add_le positive later
      omega

theorem dayOfYear_eq_iff (counted : IsDayFrom year n e) (positive : 1 ≤ year) :
    e.dayOfYear = n ↔ 1 ≤ n ∧ n ≤ daysInYear year := by
  have count := counted.count
  constructor
  · rintro rfl
    refine (counted.year_eq_iff positive).mp ?_
    have sameStart : daysBeforeYear e.year = daysBeforeYear year := by omega
    rcases Nat.lt_trichotomy e.year year with earlier | same | later
    · have order := daysBeforeYear_add_le e.year_bounds.1 earlier
      have long := le_daysInYear e.year
      omega
    · exact same
    · have order := daysBeforeYear_add_le positive later
      have long := le_daysInYear year
      omega
  · intro within
    have same := (counted.year_eq_iff positive).mpr within
    rw [same] at count
    omega

/-- A count of three digits leaves the year by two years at most, so that its last digits differ. -/
theorem year_mod_eq_iff (counted : IsDayFrom year n e) (positive : 1 ≤ year) (few : n < 1000) :
    e.year % 100 = year % 100 ↔ 1 ≤ n ∧ n ≤ daysInYear year := by
  have count := counted.count
  have bounds := dayOfYear_bounds e
  have notFarBefore : year ≤ e.year + 1 := by
    by_contra far
    have gap := daysBeforeYear_add_le (Nat.le_add_left 1 e.year) (by omega : e.year + 1 < year)
    have next := daysBeforeYear_add_le e.year_bounds.1 (Nat.lt_add_one e.year)
    have long := le_daysInYear (e.year + 1)
    omega
  have notFarAfter : e.year ≤ year + 2 := by
    by_contra far
    have gap := daysBeforeYear_add_years_le positive (e.year - year)
    rw [Nat.add_sub_cancel' (by omega)] at gap
    omega
  rw [← counted.year_eq_iff positive]
  omega

end IsDayFrom

end Date

end SolrRequest
