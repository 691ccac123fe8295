import SolrRequest.Calendar.Zone
import SolrRequest.Proofs.Calendar.WallClock

/-!
# Order of wall times

Wall times are in the order of their numbers, from the year down to the second. The first number
that differs decides, as what follows it makes up less than one unit of it.
-/

namespace SolrRequest

open Calendar

namespace Date

variable {d e : Date}

theorem dayNumber_lt_of_year (earlier : d.year < e.year) : d.dayNumber < e.dayNumber := by
  have within : d.dayNumber ≤ daysBeforeYear (d.year + 1) := by
    rw [daysBeforeYear_succ d.year_bounds.1]
    exact Nat.add_le_add_left d.dayOfYear_le _
  calc d.dayNumber ≤ daysBeforeYear (d.year + 1) := within
    _ ≤ daysBeforeYear e.year := daysBeforeYear_mono earlier
    _ < e.dayNumber := Nat.lt_add_of_pos_right e.one_le_dayOfYear

theorem dayNumber_lt_of_month (year : d.year = e.year) (earlier : d.month < e.month) :
    d.dayNumber < e.dayNumber := by
  have within : d.dayOfYear ≤ daysBeforeMonth d.year (d.month + 1) := by
    rw [daysBeforeMonth_succ d.year d.month_bounds.1]
    exact Nat.add_le_add_left d.day_bounds.2 _
  have order : d.dayOfYear < e.dayOfYear :=
    calc d.dayOfYear ≤ daysBeforeMonth d.year (d.month + 1) := within
      _ ≤ daysBeforeMonth d.year e.month := daysBeforeMonth_mono d.year earlier
      _ = daysBeforeMonth e.year e.month := by rw [year]
      _ < e.dayOfYear := Nat.lt_add_of_pos_right e.day_bounds.1
  rw [dayNumber, dayNumber, year]
  exact Nat.add_lt_add_left order _

theorem dayNumber_lt_of_day (year : d.year = e.year) (month : d.month = e.month)
    (earlier : d.day < e.day) : d.dayNumber < e.dayNumber := by
  rw [dayNumber, dayNumber, dayOfYear, dayOfYear, year, month]
  omega

theorem dayNumber_eq (year : d.year = e.year) (month : d.month = e.month) (day : d.day = e.day) :
    d.dayNumber = e.dayNumber := by
  rw [dayNumber, dayNumber, dayOfYear, dayOfYear, year, month, day]

end Date

namespace DateTime

variable {t u : DateTime}

/-- The numbers of a wall time down to the second, the largest unit first. -/
def units (t : DateTime) : List Nat :=
  [t.date.year, t.date.month, t.date.day, t.time.hour, t.time.minute, t.time.second]

theorem units_lt_iff : t.units < u.units ↔ t.date.year < u.date.year ∨ t.date.year = u.date.year ∧
    (t.date.month < u.date.month ∨ t.date.month = u.date.month ∧
      (t.date.day < u.date.day ∨ t.date.day = u.date.day ∧
        (t.time.hour < u.time.hour ∨ t.time.hour = u.time.hour ∧
          (t.time.minute < u.time.minute ∨ t.time.minute = u.time.minute ∧
            t.time.second < u.time.second)))) := by
  simp [units, List.cons_lt_cons_iff]

/-- The seconds of the wall clock, day by day. -/
theorem wallSecond_eq (t : DateTime) : t.wallSecond =
    ((t.date.dayNumber : Int) - 719163) * 86400 +
      ((t.time.hour * 60 + t.time.minute) * 60 + t.time.second : Nat) := by
  have micro := t.time.micro_lt
  have epoch : epochMicros = 719162 * 86400000000 := rfl
  rw [wallSecond, wallMicros_eq, Int.fdiv_eq_ediv_of_nonneg _ (by decide), epoch, TimeOfDay.micros]
  simp only [dayMicros]
  omega

theorem wallSecond_lt (earlier : t.units < u.units) : t.wallSecond < u.wallSecond := by
  have day {d e : Date} (later : d.dayNumber < e.dayNumber) :
      ((d.dayNumber : Int) - 719163) * 86400 + 86400 ≤ ((e.dayNumber : Int) - 719163) * 86400 := by
    omega
  have hour := t.time.hour_lt
  have minute := t.time.minute_lt
  have second := t.time.second_lt
  rw [wallSecond_eq, wallSecond_eq]
  rcases units_lt_iff.mp earlier with year | ⟨year, month | ⟨month, ofDay | ⟨ofDay, rest⟩⟩⟩
  · have := day (Date.dayNumber_lt_of_year year)
    omega
  · have := day (Date.dayNumber_lt_of_month year month)
    omega
  · have := day (Date.dayNumber_lt_of_day year month ofDay)
    omega
  · rw [Date.dayNumber_eq year month ofDay]
    omega

theorem wallSecond_eq_of_units_eq (same : t.units = u.units) : t.wallSecond = u.wallSecond := by
  simp only [units, List.cons.injEq, and_true] at same
  obtain ⟨year, month, day, hour, minute, second⟩ := same
  rw [wallSecond_eq, wallSecond_eq, Date.dayNumber_eq year month day, hour, minute, second]

end DateTime

end SolrRequest
