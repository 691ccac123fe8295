import SolrRequest.Call
import SolrRequest.Endpoint
import SolrRequest.Log
import SolrRequest.Request

/-!
# Queries

A query is built by calls. A call with good arguments has its edit carried out; any other call is
recorded and has no further effect.
-/

namespace SolrRequest

structure Rejection where
  method : String
  value : Value

structure Query where
  baseUrl : Option String
  endpoint : Endpoint
  request : Request
  mapping : FieldMapping
  restrictRoles : Bool
  hasQuery : Bool
  /-- The calls without effect, oldest first. -/
  rejected : List Rejection

namespace Query

def new (baseUrl : Option String) (endpoint : Endpoint) : Query :=
  { baseUrl, endpoint, request := .get .empty, mapping := [], restrictRoles := false
    hasQuery := false, rejected := [] }

def isPost (q : Query) : Bool :=
  match q.request with
  | .get _ => false
  | .post _ => true

def mode (q : Query) : String :=
  if q.isPost then "POST" else "GET"

def queryString (q : Query) : String :=
  match q.request with
  | .get params => params.render
  | .post _ => ""

def postBody? (q : Query) : Option Body :=
  match q.request with
  | .get _ => none
  | .post body => some body

def record (q : Query) (key value : String) (change : Body → Body) : Query :=
  { q with request := match q.request with
      | .get params => .get (params.add key value)
      | .post body => .post (change body) }

/-- Like `record` for a number, whose text is needed among parameters only. -/
def recordNumber (q : Query) (key : String) (n : Int) (change : Body → Body) :
    Except Integer.Fault Query :=
  match q.request with
  | .get params => (Integer.write n).map fun s => { q with request := .get (params.add key s) }
  | .post body => .ok { q with request := .post (change body) }

/-- Carries out an edit. It fails only for a parameter with too many digits. -/
def perform (q : Query) : Edit → Except Integer.Fault Query
  | .switchToPost => .ok <| match q.request with
    | .get _ => { q with request := .post .empty, hasQuery := false }
    | .post _ => q
  | .query s =>
    .ok { q.record "q" s fun b => { b with query := b.query ++ [s] } with hasQuery := true }
  | .filter s => .ok (q.record "fq" s fun b => { b with filter := b.filter ++ [s] })
  | .fields names =>
    .ok (q.record "fl" (",".intercalate names) fun b => { b with fields := some names })
  | .sort order => .ok (q.record "sort" order fun b => { b with sort := some order })
  | .start n => q.recordNumber "start" n fun b => { b with start := some n }
  | .limit n => q.recordNumber "rows" n fun b => { b with limit := some n }
  | .restrictByRoles => .ok { q with restrictRoles := true }
  | .map entries => .ok { q with mapping := Entries.putAll q.mapping entries }

def reject (q : Query) (c : Call) : Query :=
  { q with rejected := q.rejected ++ [⟨c.method, c.argument⟩] }

def call (q : Query) (c : Call) : Except Integer.Fault Query :=
  match c.edit? with
  | some e => q.perform e
  | none => .ok (q.reject c)

/-- The query after a call; a call that fails changes nothing. -/
def after (q : Query) (c : Call) : Query :=
  (q.call c).toOption.getD q

def run (q : Query) (calls : List Call) : Query :=
  calls.foldl after q

def reports (q : Query) (c : Call) : List Record :=
  let clause := match c with
    | .query v => [⟨.debug, "Solr query clause: " ++ v.toText⟩]
    | _ => []
  let dropped := match c, q.request with
    | .switchToPost, .get params =>
      if params.pairs.isEmpty then []
      else [⟨.warning,
        "switch_to_post called after GET params were added; dropping: " ++ params.render⟩]
    | _, _ => []
  let rejected := match c.edit? with
    | some _ => []
    | none => [⟨.debug, "Ignoring invalid Solr input: method=" ++ c.method ++ " value=" ++
        c.argument.itemText⟩]
  clause ++ dropped ++ rejected

def rolesParam : String := "targetingRoles=true"

/-- The URL without parameters: that of the query if it has one, else that of the endpoint. -/
def base (q : Query) : String :=
  match q.baseUrl with
  | some "" | none => if q.isPost then q.endpoint.postUrl else q.endpoint.getUrl
  | some url => url

def url (q : Query) : String :=
  let params := q.queryString
  let roles := if q.restrictRoles then (if params.isEmpty then "?" else "&") ++ rolesParam else ""
  q.base ++ params ++ roles

end Query

end SolrRequest
