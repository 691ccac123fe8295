import SolrRequest.Calendar.Zone
import SolrRequest.Value

/-!
# The host

What reading and writing dates relies on: a reader of free-form dates, the zones that are known by
name, and what the host makes of a number of seconds that just does not fit.
-/

namespace SolrRequest

structure Host where
  /-- The date in a text that fits no format. -/
  freeDate? : String → Option DateTime
  zone? : String → Option Zone
  /-- The name of the zone on whose clock a value of the caller's is, if it is on one. -/
  clock? : Value → Option String
  /-- Whether two to the power of sixty-three, the least number of seconds that does not fit
  sixty-four bits, is let through, so that the year is found not to fit. -/
  takesLimit : Bool

namespace Host

def fault (host : Host) : DateError → DateError
  | .secondsAtLimit => if host.takesLimit then .yearTooLarge else .secondsTooLarge
  | e => e

end Host

end SolrRequest
