import SolrRequest.Calendar.Epoch
import SolrRequest.DateFormat.Pattern

/-!
# Reading dates by a format

The date and time that captured digits denote. Of two tokens for the same part the padded one
decides, and parts that are missing start at the first of January 1970.
-/

namespace SolrRequest

open Text

namespace Captures

def digitsOf (s : List Char) : List Nat :=
  s.filterMap digit?

def number? (c : Captures) (t : Token) : Option Nat :=
  (c.last? t).map fun s => Integer.ofDigits 10 (digitsOf s)

def numberOr (c : Captures) (padded bare : Token) (absent : Nat) : Nat :=
  ((c.number? padded).or (c.number? bare)).getD absent

/-- Years of two digits are those from 1969 to 2068. -/
def year (c : Captures) : Nat :=
  match c.number? .year, c.number? .shortYear with
  | some y, _ => y
  | none, some y => if y < 69 then 2000 + y else 1900 + y
  | none, none => 1970

def afternoon (c : Captures) : Bool :=
  match c.last? .halfDay with
  | some (h :: _) => h.toUpper == 'P'
  | _ => false

/-- The hour; one of the clock with twelve hours decides. -/
def hour (c : Captures) : Nat :=
  match (c.number? .paddedClockHour).or (c.number? .clockHour) with
  | some h => h % 12 + if c.afternoon then 12 else 0
  | none => c.numberOr .paddedHour .hour 0

/-- The first six digits of the fraction, as microseconds. -/
def micro (c : Captures) : Nat :=
  match c.last? .fraction with
  | none => 0
  | some s =>
    let ds := (digitsOf s).take 6
    Integer.ofDigits 10 ds * Nat.pow 10 (6 - ds.length)

/-- The seconds of an offset: a sign, two digits of hours and two of minutes, or `Z` for none. -/
def offsetSeconds : List Char → Int
  | [] => 0
  | c :: r =>
    let ds := digitsOf r
    let minutes := Integer.ofDigits 10 (ds.take 2) * 60 + Integer.ofDigits 10 (ds.drop 2)
    Integer.signed (c == '-') (minutes * 60)

def epoch? (c : Captures) : Option (Except DateError Int) :=
  (c.last? .epoch).map fun s => (Integer.read (String.ofList s)).mapError .number

/-- The date and time that captures denote. A day of the year is counted on from the first one. -/
def toDateTime (c : Captures) : Except DateError DateTime :=
  match c.epoch? with
  | some millis => do DateTime.ofEpochMillis (← millis)
  | none => do
    let dayOfYear := c.number? .dayOfYear
    let month := if dayOfYear.isSome then 1 else c.numberOr .paddedMonth .month 1
    let day := if dayOfYear.isSome then 1 else c.numberOr .paddedDay .day 1
    let date ← Date.of c.year month day
    let time ← TimeOfDay.of c.hour (c.numberOr .paddedMinute .minute 0)
      (c.numberOr .paddedSecond .second 0) c.micro
    let date ← match dayOfYear with
      | some n => date.plusDays ((n : Int) - 1)
      | none => .ok date
    return { date, time, offset := (c.last? .offset).map offsetSeconds }

end Captures

namespace DateFormat

/-- Reads a text that fits a format; `none` if it does not fit. -/
def read? (format text : String) : Option (Except DateError DateTime) :=
  (Captures.ofText? (Element.ofItems (items format)) text.toList).map Captures.toDateTime

end DateFormat

end SolrRequest
