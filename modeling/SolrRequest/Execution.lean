import SolrRequest.Document

/-!
# Execution of a query

A query sends one request and returns the documents of the answer. The request goes through a
client that the query was given, or through a session of its own, which it closes whatever happens.
A fault of the request or of the answer is reported and leaves no documents; a fault after that
would get out.
-/

namespace SolrRequest

/-- What an answer says of its status when it is asked. -/
inductive StatusCheck
  | absent
  | notCallable
  | passes
  | fails (error : String)

structure Reply where
  status : Int
  bytes : Nat
  check : StatusCheck
  /-- The payload, or why it cannot be read. -/
  payload : Except String Value

/-- What the network makes of a request. -/
inductive Delivery
  | refused (error : String)
  | answered (reply : Reply)

inductive Message
  | get (url : String)
  | post (url : String) (body : Value)

/-- What is done to the outside: by a client that was given, or on a session, which has a number. -/
inductive Action
  | client (message : Message)
  | closeClient
  | openSession (number : Nat)
  | session (number : Nat) (message : Message) (headers : List (String × String))
      (timeout : Value)
  | closeSession (number : Nat)

/-- What gets out of an execution. -/
inductive ExecutionFault
  /-- The text of a fault of the request, or of reading its answer. -/
  | request (error : String)
  | mapping (fault : Document.Fault)

structure ExecutionState where
  query : Query
  /-- How many sessions have been opened. -/
  sessions : Nat
  actions : List Action
  records : List Record

/-- Steps that may raise a fault. What was done before the fault stays done. -/
abbrev Execution (ε : Type) := EStateM ε ExecutionState

namespace Execution

variable {ε : Type}

def act (a : Action) : Execution ε Unit :=
  modify fun s => { s with actions := s.actions ++ [a] }

def report (rs : List Record) : Execution ε Unit :=
  modify fun s => { s with records := s.records ++ rs }

def receive {α : Type} : Except ε α → Execution ε α
  | .ok a => pure a
  | .error error => throw error

end Execution

open Execution

namespace Reply

def verify (r : Reply) : Except String Unit :=
  match r.check with
  | .fails error => .error error
  | _ => .ok ()

end Reply

namespace Delivery

def reply : Delivery → Except String Reply
  | refused error => .error error
  | answered r => .ok r

end Delivery

structure Session where
  number : Nat
  endpoint : Endpoint

namespace Session

def sent : Message → Record
  | .get url => ⟨.debug, "Solr GET: url=" ++ url⟩
  | .post url body => ⟨.debug, "Solr POST: url=" ++ url ++ " body=" ++ body.toText⟩

def received (r : Reply) : Record :=
  ⟨.debug, "Solr response: status=" ++ Integer.decimal r.status ++ " bytes=" ++
    Integer.decimal r.bytes⟩

def start {ε : Type} (endpoint : Endpoint) : Execution ε Session := do
  let number := (← get).sessions
  modify fun s => { s with sessions := number + 1 }
  act (.openSession number)
  return { number, endpoint }

def send (s : Session) (m : Message) (d : Delivery) : Execution String Reply := do
  report [sent m]
  act (.session s.number m s.endpoint.headers s.endpoint.timeout)
  let reply ← receive d.reply
  report [received reply]
  return reply

def close (s : Session) : Execution String Unit :=
  act (.closeSession s.number)

end Session

inductive Client
  | given
  | own
deriving DecidableEq

inductive Transport
  | client
  | session (s : Session)

namespace Transport

def start {ε : Type} (client : Client) (endpoint : Endpoint) : Execution ε Transport :=
  match client with
  | .given => pure Transport.client
  | .own => Transport.session <$> Session.start endpoint

def send (t : Transport) (m : Message) (d : Delivery) : Execution String Reply :=
  match t with
  | client => do
    act (.client m)
    receive d.reply
  | session s => s.send m d

def close : Transport → Execution String Unit
  | client => act .closeClient
  | session s => s.close

end Transport

namespace Query

def message (q : Query) : Message :=
  match q.request with
  | .get _ => .get q.url
  | .post body => .post q.url body.toValue

/-- Sends the request and reads the payload of the answer. -/
def exchange (q : Query) (t : Transport) (d : Delivery) : Execution String Value := do
  let reply ← t.send q.message d
  receive reply.verify
  receive reply.payload

def failed (q : Query) (error : String) : Record :=
  ⟨.error, "Solr request failed: mode=" ++ q.mode ++ " url=" ++ q.url ++ " error=" ++ error⟩

def completed (q : Query) (docs : List Value) : Record :=
  ⟨.info, "Solr request completed: mode=" ++ q.mode ++ " count=" ++ Integer.decimal docs.length⟩

def announcement (q : Query) : List Record :=
  if q.hasQuery then []
  else [⟨.debug, "Executing Solr request without a main query: url=" ++ q.url⟩]

/-- The payload of the answer, if there is one. A transport that was not given is closed. -/
def fetch? (q : Query) (client : Client) (t : Transport) (d : Delivery) :
    Execution String (Option Value) :=
  try
    some <$> q.exchange t d
  catch error =>
    report [q.failed error]
    pure none
  finally
    if client = .own then t.close

/-- The documents of a payload under the mapping of the query. -/
def documents (q : Query) (payload : Value) : Execution Document.Fault (List Value) := do
  report (Document.reports payload)
  let docs ← receive (Document.ofResponse payload (Document.table q.mapping))
  report [q.completed docs]
  return docs

def execute (client : Client) (d : Delivery) : Execution ExecutionFault (List Value) := do
  let q := (← get).query
  let transport ← Transport.start client q.endpoint
  report q.announcement
  match ← (q.fetch? client transport d).adaptExcept .request with
  | none => return []
  | some payload => (q.documents payload).adaptExcept .mapping

end Query

end SolrRequest
