import SolrRequest.Calendar.Date

/-!
# Dates with a time

A date and a time of day on some wall clock, with that clock's offset from universal time where it
is known. A date and time without an offset is called local. Its instant is read as universal time.
-/

namespace SolrRequest

structure TimeOfDay where
  hour : Nat
  minute : Nat
  second : Nat
  micro : Nat
  hour_lt : hour < 24
  minute_lt : minute < 60
  second_lt : second < 60
  micro_lt : micro < 1000000
deriving DecidableEq

namespace TimeOfDay

/-- The first field that is out of range, from the hour on, decides the fault. -/
def of (hour minute second micro : Nat) : Except DateError TimeOfDay :=
  if hh : hour < 24 then
    if hm : minute < 60 then
      if hs : second < 60 then
        .ok ⟨hour, minute, second, micro % 1000000, hh, hm, hs, Nat.mod_lt _ (by decide)⟩
      else .error .secondOutOfRange
    else .error .minuteOutOfRange
  else .error .hourOutOfRange

def midnight : TimeOfDay := ⟨0, 0, 0, 0, by decide, by decide, by decide, by decide⟩

def micros (t : TimeOfDay) : Nat :=
  ((t.hour * 60 + t.minute) * 60 + t.second) * 1000000 + t.micro

def ofMicros (n : Nat) : TimeOfDay :=
  ⟨n / 3600000000 % 24, n / 60000000 % 60, n / 1000000 % 60, n % 1000000,
    Nat.mod_lt _ (by decide), Nat.mod_lt _ (by decide), Nat.mod_lt _ (by decide),
    Nat.mod_lt _ (by decide)⟩

end TimeOfDay

/-- Date, time of day and, if known, the offset from universal time in seconds. -/
structure DateTime where
  date : Date
  time : TimeOfDay
  offset : Option Int
deriving DecidableEq

namespace DateTime

def dayMicros : Nat := 86400000000

/-- The microseconds on the wall clock since the start of the year 1. -/
def wallMicros (t : DateTime) : Int :=
  ((t.date.dayNumber - 1 : Nat) * dayMicros + t.time.micros : Nat)

/-- The microseconds of universal time since the start of the year 1. -/
def instant (t : DateTime) : Int :=
  t.wallMicros - t.offset.getD 0 * 1000000

/-- The wall clock a number of microseconds after the start of the year 1. -/
def ofWallMicros? (n : Int) (offset : Option Int) : Option DateTime :=
  (Date.ofDayNumber? (n.fdiv dayMicros + 1)).map fun d =>
    ⟨d, .ofMicros (n.fmod dayMicros).toNat, offset⟩

def ofWallMicros (n : Int) (offset : Option Int) : Except DateError DateTime :=
  match ofWallMicros? n offset with
  | some t => .ok t
  | none => .error .leftCalendar

/-- The offset, which must be less than a day either way to be told. -/
def offsetToTell (t : DateTime) : Except DateError (Option Int) :=
  match t.offset with
  | none => .ok none
  | some o => if o.natAbs < 86400 then .ok (some o) else .error .offsetTooLarge

/-- The microseconds from the start of the year 1 to that of 1970. -/
def epochMicros : Int := 62135596800000000

end DateTime

end SolrRequest
