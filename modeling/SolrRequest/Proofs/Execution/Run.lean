import SolrRequest.Execution
import SolrRequest.Proofs.Document.Remapping

/-!
# What an execution leaves behind

Each step of an execution adds to the actions and to the records. Sending comes to an end with a
reply or with the text of a fault, fetching always with a payload or without one, and in either case
the transport has been closed unless it was given.
-/

namespace SolrRequest

namespace ExecutionState

/-- The state with more actions and records behind those that it has. -/
def extend (s : ExecutionState) (as : List Action) (rs : List Record) : ExecutionState :=
  { s with actions := s.actions ++ as, records := s.records ++ rs }

@[simp] theorem extend_extend (s : ExecutionState) (as bs : List Action) (rs ts : List Record) :
    (s.extend as rs).extend bs ts = s.extend (as ++ bs) (rs ++ ts) := by
  simp [extend]

end ExecutionState

namespace Execution

variable {ε α β : Type} {s t u : ExecutionState}

/-- How steps end: with a value, or with a fault. -/
def ending (result : Except ε α) (s : ExecutionState) : EStateM.Result ε ExecutionState α :=
  match result with
  | .ok a => .ok a s
  | .error e => .error e s

theorem run_act (a : Action) (s : ExecutionState) :
    (act a : Execution ε Unit).run s = .ok () (s.extend [a] []) := by
  simp [act, ExecutionState.extend]

theorem run_report (rs : List Record) (s : ExecutionState) :
    (report rs : Execution ε Unit).run s = .ok () (s.extend [] rs) := by
  simp [report, ExecutionState.extend]

theorem run_receive (result : Except ε α) (s : ExecutionState) :
    (receive result).run s = ending result s := by
  cases result <;> rfl

theorem run_bind_of_ok {x : Execution ε α} {f : α → Execution ε β} {a : α}
    (first : x.run s = .ok a t) : (x >>= f).run s = (f a).run t := by
  rw [EStateM.run_bind, first]

theorem run_bind_of_error {x : Execution ε α} {f : α → Execution ε β} {e : ε}
    (first : x.run s = .error e t) : (x >>= f).run s = .error e t := by
  rw [EStateM.run_bind, first]

theorem run_map_of_ok {x : Execution ε α} {f : α → β} {a : α} (run : x.run s = .ok a t) :
    (f <$> x).run s = .ok (f a) t := by
  rw [map_eq_pure_bind, run_bind_of_ok run]
  rfl

theorem run_tryCatch_of_ok {x : Execution ε α} {handler : ε → Execution ε α} {a : α}
    (run : x.run s = .ok a t) : (tryCatch x handler).run s = .ok a t := by
  simp only [EStateM.run] at run
  simp only [tryCatch, tryCatchThe, MonadExceptOf.tryCatch, EStateM.tryCatch, EStateM.run, run]

theorem run_tryCatch_of_error {x : Execution ε α} {handler : ε → Execution ε α} {e : ε}
    (run : x.run s = .error e t) : (tryCatch x handler).run s = (handler e).run t := by
  simp only [EStateM.run] at run
  simp only [tryCatch, tryCatchThe, MonadExceptOf.tryCatch, EStateM.tryCatch, EStateM.run, run]
  rfl

/-- A last step that does not fail is done behind steps that do not fail either. -/
theorem run_tryFinally_of_ok {x : Execution ε α} {last : Execution ε Unit} {a : α}
    (run : x.run s = .ok a t) (runLast : last.run t = .ok () u) :
    (tryFinally x last).run s = .ok a u := by
  simp only [EStateM.run] at run runLast
  simp only [tryFinally, tryFinally', Functor.map, EStateM.map, EStateM.run, run, runLast]

theorem run_adaptExcept_of_ok {δ : Type} {x : Execution ε α} {f : ε → δ} {a : α}
    (run : x.run s = .ok a t) : (x.adaptExcept f).run s = .ok a t := by
  simp only [EStateM.run] at run
  simp only [EStateM.adaptExcept, EStateM.run, run]

end Execution

open Execution

namespace Transport

def sending (t : Transport) (m : Message) : Action :=
  match t with
  | client => .client m
  | session s => .session s.number m s.endpoint.headers s.endpoint.timeout

def closing : Transport → Action
  | client => .closeClient
  | session s => .closeSession s.number

theorem run_send (t : Transport) (m : Message) (d : Delivery) (s : ExecutionState) :
    ∃ rs, (t.send m d).run s = ending d.reply (s.extend [t.sending m] rs) := by
  cases t with
  | client =>
    refine ⟨[], ?_⟩
    rw [send, run_bind_of_ok (run_act _ s), run_receive]
    rfl
  | session session =>
    rw [send, Session.send, run_bind_of_ok (run_report _ s), run_bind_of_ok (run_act _ _),
      ExecutionState.extend_extend]
    cases d.reply with
    | error error => exact ⟨[Session.sent m], run_bind_of_error (run_receive (.error error) _)⟩
    | ok r =>
      refine ⟨[Session.sent m, Session.received r], ?_⟩
      rw [run_bind_of_ok (run_receive (.ok r) _), run_bind_of_ok (run_report _ _),
        ExecutionState.extend_extend]
      rfl

theorem run_close (t : Transport) (s : ExecutionState) :
    t.close.run s = .ok () (s.extend [t.closing] []) := by
  cases t <;> exact run_act _ s

end Transport

/-- What can be read from a delivery: its payload, or the first fault on the way to it. -/
def Delivery.read (d : Delivery) : Except String Value := do
  let reply ← d.reply
  reply.verify
  reply.payload

def Client.sessions : Client → Nat
  | given => 0
  | own => 1

namespace Query

theorem run_exchange (q : Query) (t : Transport) (d : Delivery) (s : ExecutionState) :
    ∃ rs, (q.exchange t d).run s = ending d.read (s.extend [t.sending q.message] rs) := by
  obtain ⟨rs, sent⟩ := t.run_send q.message d s
  refine ⟨rs, ?_⟩
  rw [exchange, Delivery.read]
  cases reply : d.reply with
  | error error =>
    rw [reply] at sent
    exact run_bind_of_error sent
  | ok r =>
    rw [reply] at sent
    rw [run_bind_of_ok sent]
    change _ = ending (r.verify >>= fun _ => r.payload) _
    cases r.verify with
    | error error => exact run_bind_of_error (run_receive (.error error) _)
    | ok _ => rw [run_bind_of_ok (run_receive (.ok ()) _), run_receive]; rfl

/-- Fetching never fails. A transport that was not given is closed after the message was sent,
whatever becomes of the message. -/
theorem run_fetch? (q : Query) (client : Client) (t : Transport) (d : Delivery)
    (s : ExecutionState) :
    ∃ rs, (q.fetch? client t d).run s = .ok d.read.toOption
      (s.extend (t.sending q.message :: if client = .own then [t.closing] else []) rs) := by
  obtain ⟨rs, exchanged⟩ := q.run_exchange t d s
  have caught : ∃ rs, (tryCatch (some <$> q.exchange t d) fun error => do
      report [q.failed error]
      pure none : Execution String (Option Value)).run s =
        .ok d.read.toOption (s.extend [t.sending q.message] rs) := by
    cases read : d.read with
    | error error =>
      rw [read] at exchanged
      have failed : (some <$> q.exchange t d).run s =
          .error error (s.extend [t.sending q.message] rs) := by
        rw [map_eq_pure_bind, run_bind_of_error exchanged]
      refine ⟨rs ++ [q.failed error], ?_⟩
      rw [run_tryCatch_of_error failed, run_bind_of_ok (run_report _ _),
        ExecutionState.extend_extend]
      rfl
    | ok payload =>
      rw [read] at exchanged
      exact ⟨rs, run_tryCatch_of_ok (run_map_of_ok exchanged)⟩
  obtain ⟨rs, caught⟩ := caught
  refine ⟨rs, run_tryFinally_of_ok caught ?_⟩
  split
  · rw [Transport.run_close, ExecutionState.extend_extend, List.append_nil]
    rfl
  · rfl

theorem run_documents (q : Query) (payload : Value) (s : ExecutionState) :
    ∃ docs rs, Document.ofResponse payload (Document.table q.mapping) = .ok docs ∧
      (q.documents payload).run s = .ok docs (s.extend [] rs) := by
  obtain ⟨docs, mapped⟩ := Document.exists_remapAll (Document.routes?_table q.mapping)
    ((Document.extract? payload).getD [])
  refine ⟨docs, Document.reports payload ++ [q.completed docs], mapped, ?_⟩
  have received : (receive (Document.ofResponse payload (Document.table q.mapping))).run
      (s.extend [] (Document.reports payload)) =
        .ok docs (s.extend [] (Document.reports payload)) := by
    rw [run_receive, Document.ofResponse, mapped]
    rfl
  rw [documents, run_bind_of_ok (run_report _ _), run_bind_of_ok received,
    run_bind_of_ok (run_report _ _), ExecutionState.extend_extend]
  rfl

/-- What an execution does to the outside; `number` is that of the session it would open. -/
def trace (q : Query) (client : Client) (number : Nat) : List Action :=
  match client with
  | .given => [.client q.message]
  | .own => [.openSession number,
      .session number q.message q.endpoint.headers q.endpoint.timeout, .closeSession number]

/-- The documents that an execution returns for a delivery. -/
def Returns (q : Query) (d : Delivery) (docs : List Value) : Prop :=
  match d.read with
  | .ok payload => Document.ofResponse payload (Document.table q.mapping) = .ok docs
  | .error _ => docs = []

/-- The transport that an execution starts, and what its request is then part of. -/
theorem run_start {ε : Type} (q : Query) (client : Client) (s : ExecutionState) :
    ∃ t as, (Transport.start client q.endpoint : Execution ε Transport).run s =
        .ok t ({ s with sessions := s.sessions + client.sessions }.extend as []) ∧
      as ++ (t.sending q.message :: if client = .own then [t.closing] else []) =
        q.trace client s.sessions := by
  cases client with
  | given => exact ⟨.client, [], by simp [Transport.start, ExecutionState.extend]; rfl, rfl⟩
  | own =>
    refine ⟨.session ⟨s.sessions, q.endpoint⟩, [.openSession s.sessions], ?_, rfl⟩
    rw [ExecutionState.extend, List.append_nil]
    rfl

/-- An execution returns documents, whatever the delivery is, and leaves the query as it is. -/
theorem run_execute (client : Client) (d : Delivery) (s : ExecutionState) :
    ∃ docs rs, s.query.Returns d docs ∧ (execute client d).run s =
      .ok docs ({ s with sessions := s.sessions + client.sessions }.extend
        (s.query.trace client s.sessions) rs) := by
  obtain ⟨t, as, started, trace⟩ := s.query.run_start client s
  obtain ⟨rs, fetched⟩ := s.query.run_fetch? client t d
    ({ s with sessions := s.sessions + client.sessions }.extend as s.query.announcement)
  rw [ExecutionState.extend_extend, trace] at fetched
  have read : (get : Execution ExecutionFault ExecutionState).run s = .ok s s := rfl
  rw [execute, run_bind_of_ok read]
  dsimp only
  rw [run_bind_of_ok started, run_bind_of_ok (run_report _ _), ExecutionState.extend_extend,
    List.append_nil, List.nil_append, run_bind_of_ok (run_adaptExcept_of_ok fetched)]
  unfold Returns
  cases d.read with
  | error error => exact ⟨[], _, rfl, rfl⟩
  | ok payload =>
    obtain ⟨docs, more, mapped, documented⟩ := s.query.run_documents payload
      ({ s with sessions := s.sessions + client.sessions }.extend
        (s.query.trace client s.sessions) (s.query.announcement ++ rs))
    rw [ExecutionState.extend_extend, List.append_nil] at documented
    exact ⟨docs, _, mapped, run_adaptExcept_of_ok documented⟩

end Query

end SolrRequest
