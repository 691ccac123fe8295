import SolrRequest.Calendar.DateTime
import SolrRequest.Proofs.Calendar.DayNumber

/-!
# Wall clocks

Every date but the last one has a next date, so that each number of days on the calendar is that of
a date. Together with the microseconds of a day this makes the wall clock one to one with the
microseconds of the years 1 to 9999.
-/

namespace SolrRequest

open Calendar

namespace Calendar

theorem one_le_daysInMonth (year month : Nat) : 1 ≤ daysInMonth year month := by
  unfold daysInMonth
  split
  · split <;> omega
  · split <;> omega

theorem daysBeforeMonth_december (year : Nat) :
    daysBeforeMonth year 12 + daysInMonth year 12 = if isLeap year then 366 else 365 := by
  cases leap : isLeap year <;> simp [daysBeforeMonth, daysInMonth, leap]

end Calendar

namespace Date

theorem lastDay_eq : lastDay = daysBeforeYear 10000 := rfl

theorem dayNumber_bounds (d : Date) : 1 ≤ d.dayNumber ∧ d.dayNumber ≤ lastDay := by
  have found := d.ofDayNumber?_dayNumber
  rw [ofDayNumber?] at found
  split at found
  · next inside => omega
  · cases found

/-- The next day is one of the same month, the first of the next month or the first of the next
year. -/
theorem exists_next (d : Date) (notLast : d.dayNumber < lastDay) :
    ∃ e : Date, e.dayNumber = d.dayNumber + 1 := by
  obtain ⟨year, month, day, yearBounds, monthBounds, dayBounds⟩ := d
  by_cases inMonth : day < daysInMonth year month
  · exact ⟨⟨year, month, day + 1, yearBounds, monthBounds, Nat.le_add_left 1 day, inMonth⟩, rfl⟩
  · have lastOfMonth : day = daysInMonth year month := by omega
    by_cases inYear : month < 12
    · refine ⟨⟨year, month + 1, 1, yearBounds, ⟨Nat.le_add_left 1 month, inYear⟩, Nat.le_refl 1,
        one_le_daysInMonth year (month + 1)⟩, ?_⟩
      have next := daysBeforeMonth_succ year monthBounds.1
      simp only [dayNumber, dayOfYear]
      omega
    · obtain rfl : month = 12 := by omega
      have wholeYear := daysBeforeMonth_december year
      have nextYear := daysBeforeYear_succ yearBounds.1
      have number : dayNumber ⟨year, 12, day, yearBounds, monthBounds, dayBounds⟩ =
          daysBeforeYear (year + 1) := by
        simp only [dayNumber, dayOfYear]
        omega
      have bounded : year + 1 ≤ 9999 := by
        by_contra beyond
        obtain rfl : year = 9999 := by omega
        rw [number, lastDay_eq] at notLast
        exact Nat.lt_irrefl _ notLast
      refine ⟨⟨year + 1, 1, 1, ⟨Nat.le_add_left 1 year, bounded⟩, by decide, Nat.le_refl 1,
        one_le_daysInMonth (year + 1) 1⟩, ?_⟩
      rw [number]
      rfl

theorem exists_dayNumber_eq {number : Nat} (positive : 1 ≤ number) (bounded : number ≤ lastDay) :
    ∃ d : Date, d.dayNumber = number := by
  induction number, positive using Nat.le_induction with
  | base => exact ⟨⟨1, 1, 1, by decide, by decide, by decide⟩, rfl⟩
  | succ number positive inductionHypothesis =>
    obtain ⟨d, rfl⟩ := inductionHypothesis (Nat.le_of_succ_le bounded)
    exact d.exists_next bounded

end Date

namespace TimeOfDay

theorem micros_lt (t : TimeOfDay) : t.micros < DateTime.dayMicros := by
  obtain ⟨hour, minute, second, micro, _, _, _, _⟩ := t
  simp only [micros, DateTime.dayMicros]
  omega

theorem micros_ofMicros {n : Nat} (bounded : n < DateTime.dayMicros) : (ofMicros n).micros = n := by
  simp only [DateTime.dayMicros] at bounded
  simp only [micros, ofMicros]
  omega

theorem ofMicros_micros (t : TimeOfDay) : ofMicros t.micros = t := by
  obtain ⟨hour, minute, second, micro, _, _, _, _⟩ := t
  simp only [micros, ofMicros, TimeOfDay.mk.injEq]
  omega

end TimeOfDay

namespace DateTime

/-- The microseconds since the start of the year 1 are those of some time up to the year 9999. -/
def OnCalendar (n : Int) : Prop :=
  0 ≤ n ∧ n < Date.lastDay * dayMicros

instance (n : Int) : Decidable (OnCalendar n) :=
  inferInstanceAs (Decidable (_ ∧ _))

theorem wallMicros_eq (t : DateTime) :
    t.wallMicros = ((t.date.dayNumber : Int) - 1) * dayMicros + t.time.micros := by
  have positive := t.date.dayNumber_bounds.1
  rw [wallMicros]
  push_cast [positive]
  rfl

theorem onCalendar_wallMicros (t : DateTime) : OnCalendar t.wallMicros := by
  have date := t.date.dayNumber_bounds
  have time := t.time.micros_lt
  rw [OnCalendar, wallMicros_eq]
  simp only [dayMicros] at time ⊢
  omega

theorem ofWallMicros_eq_ok {t : DateTime} {n : Int} (told : t.wallMicros = n)
    (offset : Option Int) : ofWallMicros n offset = .ok { t with offset } := by
  have time := t.time.micros_lt
  rw [wallMicros_eq] at told
  have day : n.fdiv dayMicros + 1 = t.date.dayNumber := by
    rw [Int.fdiv_eq_ediv_of_nonneg _ (Int.natCast_nonneg _)]
    simp only [dayMicros] at told time ⊢
    omega
  have rest : (n.fmod dayMicros).toNat = t.time.micros := by
    rw [Int.fmod_eq_emod_of_nonneg _ (Int.natCast_nonneg _)]
    simp only [dayMicros] at told time ⊢
    omega
  rw [ofWallMicros, ofWallMicros?, day, rest, Date.ofDayNumber?_dayNumber,
    TimeOfDay.ofMicros_micros]
  rfl

/-- The wall clock determines date and time of day. -/
theorem eq_of_wallMicros_eq {t u : DateTime} (same : t.wallMicros = u.wallMicros)
    (offset : Option Int) : { t with offset } = { u with offset } := by
  have told := ofWallMicros_eq_ok same offset
  rw [ofWallMicros_eq_ok rfl offset] at told
  exact (Except.ok.inj told).symm

theorem exists_wallMicros_eq {n : Int} (inside : OnCalendar n) :
    ∃ t : DateTime, t.wallMicros = n := by
  obtain ⟨m, rfl⟩ := Int.eq_ofNat_of_zero_le inside.1
  have bounded : m / dayMicros + 1 ≤ Date.lastDay :=
    Nat.div_lt_of_lt_mul (by have := inside.2; rw [Nat.mul_comm]; exact_mod_cast this)
  obtain ⟨date, number⟩ := Date.exists_dayNumber_eq (Nat.le_add_left 1 _) bounded
  have micros : (TimeOfDay.ofMicros (m % dayMicros)).micros = m % dayMicros :=
    TimeOfDay.micros_ofMicros (Nat.mod_lt _ (by decide))
  refine ⟨⟨date, .ofMicros (m % dayMicros), none⟩, ?_⟩
  rw [wallMicros, number, micros, Nat.add_sub_cancel, Nat.div_add_mod']

theorem ofWallMicros_eq_error {n : Int} (outside : ¬ OnCalendar n) (offset : Option Int) :
    ofWallMicros n offset = .error .leftCalendar := by
  have noDay : Date.ofDayNumber? (n.fdiv dayMicros + 1) = none := by
    rw [Date.ofDayNumber?, if_neg]
    rw [Int.fdiv_eq_ediv_of_nonneg _ (Int.natCast_nonneg _)]
    simp only [OnCalendar, dayMicros] at outside ⊢
    omega
  rw [ofWallMicros, ofWallMicros?, noDay]
  rfl

theorem eq_of_ofWallMicros {t : DateTime} {n : Int} {offset : Option Int}
    (told : ofWallMicros n offset = .ok t) : t.wallMicros = n ∧ t.offset = offset := by
  by_cases inside : OnCalendar n
  · obtain ⟨v, wall⟩ := exists_wallMicros_eq inside
    rw [ofWallMicros_eq_ok wall] at told
    cases told
    exact ⟨wall, rfl⟩
  · rw [ofWallMicros_eq_error inside] at told
    cases told

/-- The instants of the years 1 to 9999 are those that some wall clock shows. -/
theorem onCalendar_iff {n : Int} : OnCalendar n ↔ ∃ t : DateTime, t.wallMicros = n := by
  constructor
  · exact exists_wallMicros_eq
  · rintro ⟨t, rfl⟩
    exact t.onCalendar_wallMicros

end DateTime

end SolrRequest
