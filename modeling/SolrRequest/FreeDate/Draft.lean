import SolrRequest.Calendar.DateTime
import SolrRequest.FreeDate.Word

/-!
# Drafts of dates

What has been read of a free-form date: numbers of which it is open which one is the year, the month
and the day, and parts of the time. At the end the numbers are told apart by their size and order,
and what is missing is taken from a day in the calendar.
-/

namespace SolrRequest.FreeDate

open Calendar

structure Draft where
  /-- The numbers of the date, in the order of the text. -/
  numbers : List Nat
  /-- The positions of the numbers that are known to be year and month. -/
  yearAt : Option Nat
  monthAt : Option Nat
  /-- A year was written with its century. -/
  century : Bool
  weekday : Option Nat
  hour : Option Nat
  minute : Option Nat
  second : Option Nat
  micro : Option Nat
  zone : Option Word
  offset : Option Int

namespace Draft

def empty : Draft :=
  ⟨[], none, none, false, none, none, none, none, none, none, none⟩

/-! ## Numbers of the date -/

def addNumber (d : Draft) (n : Nat) : Draft :=
  { d with numbers := d.numbers ++ [n] }

def addYear? (d : Draft) (n : Nat) (century : Bool) : Option Draft :=
  if d.yearAt.isSome then none
  else some { d.addNumber n with
    yearAt := some d.numbers.length, century := d.century || century }

def addMonth? (d : Draft) (n : Nat) : Option Draft :=
  if d.monthAt.isSome then none
  else some { d.addNumber n with monthAt := some d.numbers.length }

/-- Adds digits; more than two of them are a year. -/
def addDigits? (d : Draft) (w : Word) : Option Draft := do
  let n ← natural? w
  if 2 < w.length then d.addYear? n true else return d.addNumber n

def addYearDigits? (d : Draft) (w : Word) : Option Draft := do
  d.addYear? (← natural? w) (2 < w.length)

/-- Adds a number; one above a hundred is a year. -/
def addNumeral? (d : Draft) (n : Numeral) : Option Draft :=
  if n.atMost 100 then some (d.addNumber n.whole) else d.addYear? n.whole true

def numberAt (d : Draft) (i : Nat) : Nat :=
  (d.numbers[i]?).getD 0

/-- The length of a month in the longest year, or in the year that is known. -/
def longestMonth (d : Draft) : Nat :=
  match d.monthAt, d.yearAt with
  | none, _ => 31
  | some m, none => daysInMonth 2000 (d.numberAt m)
  | some m, some y => daysInMonth (d.numberAt y) (d.numberAt m)

def couldBeDay (d : Draft) (n : Numeral) : Bool :=
  1 ≤ n.whole && n.atMost d.longestMonth

/-! ## Year, month and day -/

structure Parts where
  year : Option Nat
  month : Option Nat
  day : Option Nat

namespace Parts

def ymd (y m d : Nat) : Parts := ⟨some y, some m, some d⟩

end Parts

def single (n : Nat) : Parts :=
  if 31 < n then ⟨some n, none, none⟩ else ⟨none, none, some n⟩

/-- Two numbers, of which the month may be known. -/
def pair (monthAt : Option Nat) (a b : Nat) : Parts :=
  match monthAt with
  | some i =>
    let (month, other) := if i = 0 then (a, b) else (b, a)
    { single other with month := some month }
  | none =>
    if 31 < a then ⟨some a, some b, none⟩
    else if 31 < b then ⟨some b, some a, none⟩
    else ⟨none, some a, some b⟩

/-- Three numbers, of which at most one is known. -/
def triple (yearAt monthAt : Option Nat) (a b c : Nat) : Parts :=
  match monthAt with
  | some 0 => if 31 < b then .ymd b a c else .ymd c a b
  | some 1 => if 31 < a then .ymd a b c else .ymd c b a
  | some _ => if 31 < b then .ymd b c a else .ymd a c b
  | none =>
    if 31 < a ∨ yearAt = some 0 then .ymd a b c
    else if 12 < a then .ymd c b a
    else .ymd c a b

/-- Tells the numbers of the date apart; there are at most three. -/
def parts? (d : Draft) : Option Parts :=
  match d.numbers, d.yearAt, d.monthAt with
  | [], _, _ => some ⟨none, none, none⟩
  | [a], some _, _ => some ⟨some a, none, none⟩
  | [a], none, some _ => some ⟨none, some a, none⟩
  | [a], none, none => some (single a)
  | [a, b], some y, some _ =>
    some (if y = 0 then ⟨some a, some b, none⟩ else ⟨some b, some a, none⟩)
  | [a, b], _, m => some (pair m a b)
  | [_, _, _], some y, some m =>
    some (.ymd (d.numberAt y) (d.numberAt m) (d.numberAt (3 - y - m)))
  | [a, b, c], y, m => some (triple y m a b c)
  | _, _, _ => none

/-- A year of two digits lies within fifty years of the present one. -/
def fullYear (present year : Nat) (century : Bool) : Nat :=
  if century || 100 ≤ year then year
  else
    let y := year + present / 100 * 100
    if present + 50 ≤ y then y - 100
    else if y + 50 < present then y + 100
    else y

/-! ## The date -/

def isEmpty (d : Draft) : Bool :=
  d.numbers.isEmpty && d.weekday.isNone && d.hour.isNone && d.minute.isNone && d.second.isNone &&
    d.micro.isNone && d.zone.isNone && d.offset.isNone

/-- The offset of the zone; names other than those of universal time tell nothing. -/
def zoneOffset (d : Draft) : Option Int :=
  match d.zone with
  | some w => if isUniversal w then some 0 else d.offset
  | none => d.offset

/-- The date that the parts denote; what is missing is taken from `today`. A day that is missing is
not later than the last one of the month. -/
def date? (today : Date) (p : Parts) : Option Date :=
  let year := p.year.getD today.year
  let month := p.month.getD today.month
  let day := p.day.getD (min today.day (daysInMonth year month))
  Date.of? year month day

/-- A weekday without a day is the next one, from the date on. -/
def moveToWeekday (d : Date) (weekday : Nat) : Option Date :=
  (d.plusDays ((7 - d.weekday + weekday) % 7 : Nat)).toOption

def toDateTime? (d : Draft) (today : Date) : Option DateTime := do
  if d.isEmpty then none
  let p ← d.parts?
  let p := { p with year := p.year.map fun y => fullYear today.year y d.century }
  let date ← date? today p
  let time ← (TimeOfDay.of (d.hour.getD 0) (d.minute.getD 0) (d.second.getD 0)
    (d.micro.getD 0)).toOption
  let date ← match d.weekday, p.day with
    | some w, none => moveToWeekday date w
    | _, _ => some date
  return { date, time, offset := d.zoneOffset }

end Draft

end SolrRequest.FreeDate
