import SolrRequest.Calendar.Timetable
import SolrRequest.FreeDate.Reading
import SolrRequest.Host

/-!
# A host with timetables

A host that reads free-form dates by their words and knows the zones that have a timetable. No value
of its callers is on the clock of one of them.
-/

namespace SolrRequest.Host

/-- What a free-form date leaves open is taken from `today`. -/
def standard (today : Date) : Host where
  freeDate? := FreeDate.read? today
  zone? name := (Timetable.ofName? name).map Timetable.zone
  clock? _ := none
  takesLimit := true

end SolrRequest.Host
