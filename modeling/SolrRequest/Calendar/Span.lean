import SolrRequest.Calendar.Error

/-!
# Spans of time as text
-/

namespace SolrRequest.Calendar

/-- A span of seconds as whole days and the seconds that are left. -/
def spanText (seconds : Int) : String :=
  let days := seconds.fdiv 86400
  let rest := seconds.fmod 86400
  let parts := (if days = 0 then [] else ["days=" ++ Integer.decimal days]) ++
    (if rest = 0 then [] else ["seconds=" ++ Integer.decimal rest])
  "datetime.timedelta(" ++ (if parts.isEmpty then "0" else ", ".intercalate parts) ++ ")"

end SolrRequest.Calendar
