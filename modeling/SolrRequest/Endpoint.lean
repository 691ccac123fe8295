import SolrRequest.Value

/-!
# Endpoints

Where requests go and what goes with each of them.
-/

namespace SolrRequest

structure Endpoint where
  getUrl : String
  postUrl : String
  /-- As the session takes it: nothing, or a number of seconds. -/
  timeout : Value
  userAgent : String

namespace Endpoint

def standard : Endpoint :=
  { getUrl := "/myservices/search-service/doRequest/dp-content/dprender"
    postUrl := ""
    timeout := .float (Double.floatOfInt 30)
    userAgent := "solr-builder/0.1" }

def headers (e : Endpoint) : List (String × String) :=
  [("User-Agent", e.userAgent), ("Accept", "application/json")]

end Endpoint

end SolrRequest
