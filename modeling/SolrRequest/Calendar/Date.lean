import SolrRequest.Calendar.Error

/-!
# Dates

The days of the years 1 to 9999. Days are numbered from the first day of the year 1, which has the
number 1.
-/

namespace SolrRequest

namespace Calendar

def isLeap (year : Nat) : Bool :=
  year % 4 == 0 && (year % 100 != 0 || year % 400 == 0)

def daysInMonth (year month : Nat) : Nat :=
  if month = 2 then (if isLeap year then 29 else 28)
  else if month = 4 ∨ month = 6 ∨ month = 9 ∨ month = 11 then 30
  else 31

theorem daysInMonth_le (year month : Nat) : daysInMonth year month ≤ 31 := by
  unfold daysInMonth
  split
  · split <;> omega
  · split <;> omega

/-- The days from the start of the year 1 to the start of a year. -/
def daysBeforeYear (year : Nat) : Nat :=
  let y := year - 1
  y * 365 + y / 4 - y / 100 + y / 400

/-- The days from the start of the year to the start of a month. -/
def daysBeforeMonth (year : Nat) : Nat → Nat
  | 0 => 0
  | 1 => 0
  | m + 2 => daysBeforeMonth year (m + 1) + daysInMonth year (m + 1)

def yearOfDay (number : Nat) : Nat :=
  let n := number - 1
  let guess := n * 400 / 146097 + 1
  if n < daysBeforeYear guess then guess - 1
  else if daysBeforeYear (guess + 1) ≤ n then guess + 1
  else guess

/-- Month and day of the month, for a day counted from the start of `month`; at most `later`
months follow. -/
def monthAndDay (year : Nat) : (later month day : Nat) → Nat × Nat
  | 0, month, day => (month, day)
  | later + 1, month, day =>
    if day ≤ daysInMonth year month then (month, day)
    else monthAndDay year later (month + 1) (day - daysInMonth year month)

/-- The year of a day number without bounds; four hundred years always have the same length. -/
def yearOfAnyDay (number : Int) : Int :=
  let n := number - 1
  400 * n.fdiv 146097 + yearOfDay ((n.fmod 146097).toNat + 1)

end Calendar

open Calendar

structure Date where
  year : Nat
  month : Nat
  day : Nat
  year_bounds : 1 ≤ year ∧ year ≤ 9999
  month_bounds : 1 ≤ month ∧ month ≤ 12
  day_bounds : 1 ≤ day ∧ day ≤ daysInMonth year month
deriving DecidableEq

namespace Date

/-- The first field that is out of range, from the year on, decides the fault. -/
def of (year month day : Nat) : Except DateError Date :=
  if hy : 1 ≤ year ∧ year ≤ 9999 then
    if hm : 1 ≤ month ∧ month ≤ 12 then
      if hd : 1 ≤ day ∧ day ≤ daysInMonth year month then .ok ⟨year, month, day, hy, hm, hd⟩
      else .error .dayOutOfRange
    else .error .monthOutOfRange
  else .error (.yearOutOfRange year)

def of? (year month day : Nat) : Option Date :=
  (of year month day).toOption

def dayOfYear (d : Date) : Nat :=
  daysBeforeMonth d.year d.month + d.day

def dayNumber (d : Date) : Nat :=
  daysBeforeYear d.year + d.dayOfYear

/-- The number of the last day of the year 9999. -/
def lastDay : Nat := 3652059

def ofDayNumber? (number : Int) : Option Date :=
  if 1 ≤ number ∧ number ≤ lastDay then
    let n := number.toNat
    let year := yearOfDay n
    let (month, day) := monthAndDay year 11 1 (n - daysBeforeYear year)
    of? year month day
  else none

def plusDays (d : Date) (days : Int) : Except DateError Date :=
  match ofDayNumber? (d.dayNumber + days) with
  | some e => .ok e
  | none => .error .leftCalendar

/-- The day of the week; zero is Monday. -/
def weekday (d : Date) : Nat :=
  (d.dayNumber + 6) % 7

end Date

end SolrRequest
