import SolrRequest.Calendar.DateTime
import SolrRequest.Number.Double

/-!
# Time since 1970

Instants as seconds and milliseconds since the start of 1970. Seconds are a double; their fraction
is rounded to microseconds, a half to the even one.
-/

namespace SolrRequest.DateTime

open Calendar

def epochDay : Int := 719163

/-- Whole seconds and microseconds, the latter not negative. -/
def splitSeconds (s : Double) : Int × Int :=
  let micros := (s.fraction.mulNat 1000000).round
  if 1000000 ≤ micros then (s.truncate + 1, micros - 1000000)
  else if micros < 0 then (s.truncate - 1, micros + 1000000)
  else (s.truncate, micros)

/-- Seconds fit sixty-four bits with a sign, and years counted from 1900 fit thirty-two. -/
def secondsBound : Int := Nat.pow 2 63

def yearBound : Int := Nat.pow 2 31

/-- The fault depends on how far the instant is away: the seconds first, then the year. -/
def ofEpochSeconds (s : Double) : Except DateError DateTime :=
  let (seconds, micros) := splitSeconds s
  let year := yearOfAnyDay (seconds.fdiv 86400 + epochDay)
  if seconds < -secondsBound ∨ secondsBound < seconds then .error .secondsTooLarge
  else if seconds = secondsBound then .error .secondsAtLimit
  else if year - 1900 < -yearBound ∨ yearBound ≤ year - 1900 then .error .yearTooLarge
  else if year < 1 ∨ 9999 < year then .error (.yearOutOfRange year)
  else ofWallMicros (seconds * 1000000 + micros + epochMicros) (some 0)

/-- The instant an integer number of milliseconds after the start of 1970. -/
def ofEpochMillis (n : Int) : Except DateError DateTime :=
  let s := Double.nearest n 1000
  if s.overflows then .error .quotientTooLarge else ofEpochSeconds s

/-- The milliseconds since 1970, told through the seconds as a double. -/
def epochMillis (t : DateTime) : Except DateError Int := do
  let _ ← t.offsetToTell
  let seconds := Double.nearest (t.instant - epochMicros) 1000000
  return (seconds.mulNat 1000).truncate

end SolrRequest.DateTime
