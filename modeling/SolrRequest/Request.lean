import SolrRequest.Value

/-!
# Requests

The two encodings of a request: parameters in the order in which they were added, and a body whose
members each hold what was set last.
-/

namespace SolrRequest

structure Params where
  pairs : List (String × String)
deriving DecidableEq

namespace Params

def empty : Params := ⟨[]⟩

def add (p : Params) (key value : String) : Params :=
  ⟨p.pairs ++ [(key, value)]⟩

def pair (p : String × String) : String :=
  p.1 ++ "=" ++ p.2

/-- The parameters behind a question mark; nothing where there are none. -/
def render (p : Params) : String :=
  if p.pairs.isEmpty then "" else "?" ++ "&".intercalate (p.pairs.map pair)

end Params

structure Body where
  query : List String
  filter : List String
  sort : Option String
  fields : Option (List String)
  start : Option Int
  limit : Option Int
deriving DecidableEq

namespace Body

def empty : Body := ⟨[], [], none, none, none, none⟩

/-- The members of a body; those that are not set are left out. -/
def members (query filter : Value) (sort fields start limit : Option Value) : Value :=
  let optional (name : String) (v : Option Value) : List (Value × Value) :=
    v.toList.map fun x => (.text name, x)
  .dict ([(.text "query", query), (.text "filter", filter)] ++ optional "sort" sort ++
    optional "fields" fields ++ optional "start" start ++ optional "limit" limit)

def texts (xs : List String) : Value :=
  .list (xs.map .text)

def toValue (b : Body) : Value :=
  members (texts b.query) (texts b.filter) (b.sort.map .text) (b.fields.map texts)
    (b.start.map .int) (b.limit.map .int)

end Body

inductive Request
  | get (params : Params)
  | post (body : Body)
deriving DecidableEq

end SolrRequest
