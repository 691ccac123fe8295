import SolrRequest.Query

/-!
# Documents of a response

The documents are taken out of the response and get their fields under further names. Entries of a
mapping act one after the other on the document as it has become. A mapping may hold anything, and
copying fails where a destination is of no use.
-/

namespace SolrRequest

namespace Document

def member? (key : String) : Value → Option Value
  | .dict entries => Entries.get? (.text key) entries
  | _ => none

/-- The list of documents of a response. -/
def extract? (payload : Value) : Option (List Value) := do
  match ← member? "docs" (← member? "response" payload) with
  | .list docs => some docs
  | _ => none

inductive Fault
  /-- The target is no text and has no items that could be destinations. -/
  | noDestinations (target : Value)
  /-- The destination cannot be the key of a document. -/
  | noKey (destination : Value)

/-- The destinations that a target stands for: a text for itself, anything else for its items. -/
def destinations : Value → Except Fault (List Value)
  | .text s => .ok [.text s]
  | .field f => .ok [.field f]
  | .list items => .ok items
  | .tuple items => .ok items
  | .set items => .ok items
  | .dict entries => .ok (entries.map Prod.fst)
  | .bytes octets => .ok (octets.map fun b => .int b.toNat)
  | target => .error (.noDestinations target)

def write (a : Value) (doc : List (Value × Value)) (destination : Value) :
    Except Fault (List (Value × Value)) :=
  if destination.isKey then .ok (Entries.put destination a doc) else .error (.noKey destination)

/-- Writes the value of the source, if there is one, at each of the destinations. -/
def copy (doc : List (Value × Value)) (entry : Value × Value) :
    Except Fault (List (Value × Value)) :=
  match Entries.get? entry.1 doc with
  | none => .ok doc
  | some a => do (← destinations entry.2).foldlM (write a) doc

/-- What is no document stays as it is. -/
def remap (mapping : List (Value × Value)) : Value → Except Fault Value
  | .dict doc => (mapping.foldlM copy doc).map .dict
  | v => .ok v

def remapAll (mapping : List (Value × Value)) (docs : List Value) : Except Fault (List Value) :=
  if mapping.isEmpty then .ok docs else docs.mapM (remap mapping)

def table (mapping : FieldMapping) : List (Value × Value) :=
  mapping.map fun (source, destination) => (.text source, destination.toValue)

def ofResponse (payload : Value) (mapping : List (Value × Value)) : Except Fault (List Value) :=
  remapAll mapping ((extract? payload).getD [])

def reports (payload : Value) : List Record :=
  match extract? payload with
  | some _ => []
  | none => [⟨.warning, "Unexpected Solr response shape; expected response.docs list"⟩]

end Document

end SolrRequest
