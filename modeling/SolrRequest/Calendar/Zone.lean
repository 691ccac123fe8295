import SolrRequest.Calendar.DateTime

/-!
# Time zones

A zone is known by what its clock does: how far it is ahead at an instant, which offset it tells
then, and which offset it gives to a wall time.
-/

namespace SolrRequest

/-- The clock of a zone. Instants are in seconds of universal time since 1970, and wall times in
seconds on the clock. -/
structure Zone where
  /-- Two zones of one name are the same. -/
  name : String
  /-- By how many seconds the clock is ahead of universal time at an instant. -/
  shiftAt : Int → Int
  /-- The offset that the clock tells at an instant. -/
  offsetAt : Int → Int
  /-- The offset that is told for a wall time. -/
  offsetAtWall : Int → Int

namespace DateTime

def wallSecond (t : DateTime) : Int :=
  (t.wallMicros - epochMicros).fdiv 1000000

/-- The same instant on the wall clock of a zone. It is told in universal time on the way. -/
def inZone (t : DateTime) (z : Zone) : Except DateError DateTime := do
  let _ ← t.offsetToTell
  let universal ← ofWallMicros t.instant none
  let second := universal.wallSecond
  ofWallMicros (t.instant + z.shiftAt second * 1000000) (some (z.offsetAt second))

/-- The wall time of a local date and time, told by the clock of a zone. -/
def placedIn (t : DateTime) (z : Zone) : DateTime :=
  { t with offset := some (z.offsetAtWall t.wallSecond) }

end DateTime

end SolrRequest
