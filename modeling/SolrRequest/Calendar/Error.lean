import SolrRequest.Number.Integer

/-!
# Faults of dates

Why fields or a number of seconds denote no date and time.
-/

namespace SolrRequest

inductive DateError
  | yearOutOfRange (year : Int)
  | monthOutOfRange
  | dayOutOfRange
  | hourOutOfRange
  | minuteOutOfRange
  | secondOutOfRange
  /-- The calendar of the years 1 to 9999 was left. -/
  | leftCalendar
  /-- An offset from universal time of a day or more was asked for. -/
  | offsetTooLarge
  | number (fault : Integer.Fault)
  | quotientTooLarge
  | notANumber
  /-- The seconds of an instant do not fit sixty-four bits. -/
  | secondsTooLarge
  /-- The seconds of an instant are the least number that does not fit. -/
  | secondsAtLimit
  /-- The year of an instant does not fit thirty-two bits. -/
  | yearTooLarge

namespace DateError

def message : DateError → String
  | yearOutOfRange year => "year " ++ Integer.decimal year ++ " is out of range"
  | monthOutOfRange => "month must be in 1..12"
  | dayOutOfRange => "day is out of range for month"
  | hourOutOfRange => "hour must be in 0..23"
  | minuteOutOfRange => "minute must be in 0..59"
  | secondOutOfRange => "second must be in 0..59"
  | leftCalendar => "date value out of range"
  | offsetTooLarge =>
    "offset must be a timedelta strictly between -timedelta(hours=24) and timedelta(hours=24)."
  | number fault => fault.message
  | quotientTooLarge => "integer division result too large for a float"
  | notANumber => "Invalid value NaN (not a number)"
  | secondsTooLarge | secondsAtLimit => "timestamp out of range for platform time_t"
  | yearTooLarge => "[Errno 75] Value too large for defined data type"

end DateError

end SolrRequest
