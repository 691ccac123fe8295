import SolrRequest.Calendar.Epoch
import SolrRequest.DateFormat.Token

/-!
# Writing dates by a format

Each token of a format is replaced by its part of a date and time.
-/

namespace SolrRequest

namespace DateTime

/-- The hour on a clock with twelve hours, from 1 to 12. -/
def clockHour (t : DateTime) : Nat :=
  if t.time.hour % 12 = 0 then 12 else t.time.hour % 12

/-- Hours and minutes of the offset; a date and time without one is told as universal time. -/
def offsetText (t : DateTime) : Except DateError String := do
  let total := (← t.offsetToTell).getD 0
  let sign := if total < 0 then "-" else "+"
  return sign ++ Integer.padded 2 (total.natAbs / 3600) ++ ":" ++
    Integer.padded 2 (total.natAbs / 60 % 60)

def part (t : DateTime) : Token → Except DateError String
  | .year => .ok (Integer.padded 4 t.date.year)
  | .shortYear => .ok (Integer.padded 2 (t.date.year % 100))
  | .dayOfYear => .ok (Integer.padded 1 t.date.dayOfYear)
  | .paddedDay => .ok (Integer.padded 2 t.date.day)
  | .day => .ok (Integer.padded 1 t.date.day)
  | .paddedMonth => .ok (Integer.padded 2 t.date.month)
  | .month => .ok (Integer.padded 1 t.date.month)
  | .paddedHour => .ok (Integer.padded 2 t.time.hour)
  | .hour => .ok (Integer.padded 1 t.time.hour)
  | .paddedClockHour => .ok (Integer.padded 2 t.clockHour)
  | .clockHour => .ok (Integer.padded 1 t.clockHour)
  | .paddedMinute => .ok (Integer.padded 2 t.time.minute)
  | .minute => .ok (Integer.padded 1 t.time.minute)
  | .fraction => .ok (Integer.padded 3 (t.time.micro / 1000))
  | .paddedSecond => .ok (Integer.padded 2 t.time.second)
  | .second => .ok (Integer.padded 1 t.time.second)
  | .halfDay => .ok (if 12 ≤ t.time.hour then "PM" else "AM")
  | .offset => t.offsetText
  | .epoch => t.epochMillis.map Integer.decimal

def itemText (t : DateTime) : Item → Except DateError String
  | .token token => t.part token
  | .plain c => .ok (String.singleton c)

end DateTime

namespace DateFormat

/-- The texts of the items of a format, one after the other. -/
def writeItems (t : DateTime) : List Item → Except DateError String
  | [] => .ok ""
  | i :: r => do
    let s ← t.itemText i
    return s ++ (← writeItems t r)

def write (format : String) (t : DateTime) : Except DateError String :=
  writeItems t (items format)

end DateFormat

end SolrRequest
