import SolrRequest.Proofs.Execution.Run

/-!
# Executions one after the other

Each execution sends the same message and leaves the query as it was. Without a client of its own it
opens a session, sends on it and closes it.
-/

namespace SolrRequest.Query

/-- A client that was given needs no session, so that the number says nothing. -/
theorem trace_next (q : Query) (client : Client) (number i : Nat) :
    q.trace client (number + client.sessions + i) = q.trace client (number + (i + 1)) := by
  cases client with
  | given => rfl
  | own => rw [Client.sessions, Nat.add_assoc, Nat.add_comm 1 i]

theorem run_executions (client : Client) (ds : List Delivery) (s : ExecutionState) :
    ∃ results after, (ds.mapM (execute client)).run s = .ok results after ∧
      results.length = ds.length ∧ after.query = s.query ∧
      after.actions = s.actions ++
        (List.range ds.length).flatMap fun i => s.query.trace client (s.sessions + i) := by
  induction ds generalizing s with
  | nil => exact ⟨[], s, rfl, rfl, rfl, by simp⟩
  | cons d ds inductionHypothesis =>
    obtain ⟨docs, rs, _, first⟩ := run_execute client d s
    obtain ⟨results, after, rest, length, sameQuery, actions⟩ := inductionHypothesis
      ({ s with sessions := s.sessions + client.sessions }.extend
        (s.query.trace client s.sessions) rs)
    refine ⟨docs :: results, after, ?_, congrArg Nat.succ length, sameQuery, ?_⟩
    · rw [List.mapM_cons, Execution.run_bind_of_ok first, Execution.run_bind_of_ok rest]
      rfl
    · rw [actions, List.length_cons, List.range_succ_eq_map, List.flatMap_cons, List.flatMap_map,
        ← List.append_assoc]
      congr 1
      apply List.flatMap_congr
      intro i _
      exact trace_next s.query client s.sessions i

/-- Executions of one query, each with a delivery of its own, all send the message that the query
stands for, and none changes the query. A client that was given is used for nothing else; without
one, each execution opens a session, sends on it with the headers and the timeout of the endpoint
and then closes it. -/
theorem executions_trace (client : Client) (ds : List Delivery) (s : ExecutionState) :
    let message := match s.query.postBody? with
      | none => .get s.query.url
      | some body => .post s.query.url body.toValue
    ∃ results after, (ds.mapM (execute client)).run s = .ok results after ∧
      results.length = ds.length ∧ after.query = s.query ∧
      after.actions = s.actions ++ (List.range ds.length).flatMap fun i => match client with
        | .given => [.client message]
        | .own => [.openSession (s.sessions + i),
            .session (s.sessions + i) message
              [("User-Agent", s.query.endpoint.userAgent), ("Accept", "application/json")]
              s.query.endpoint.timeout,
            .closeSession (s.sessions + i)] := by
  intro message
  have sent : s.query.message = message := by
    unfold Query.message message postBody?
    cases s.query.request <;> rfl
  obtain ⟨results, after, run, length, sameQuery, actions⟩ := run_executions client ds s
  refine ⟨results, after, run, length, sameQuery, ?_⟩
  rw [actions, ← sent]
  cases client <;> rfl

/-- Two executions without a client, one refused and one with an answer that cannot be read. -/
theorem executions_trace_failures :
    let q := (new (some "/search") ⟨"/get", "/post", .int 5, "agent"⟩).run
      [.switchToPost, .filter (.text "a"), .restrictByRoles]
    let message : Message := .post "/search?targetingRoles=true"
      (.dict [(.text "query", .list []), (.text "filter", .list [.text "a"])])
    let headers := [("User-Agent", "agent"), ("Accept", "application/json")]
    ∃ results after,
      ([.refused "down", .answered ⟨200, 0, .absent, .error "no payload"⟩].mapM
        (execute .own)).run ⟨q, 0, [], []⟩ = .ok results after ∧
      results.length = 2 ∧ after.query = q ∧
      after.actions = [.openSession 0, .session 0 message headers (.int 5), .closeSession 0,
        .openSession 1, .session 1 message headers (.int 5), .closeSession 1] := by
  intro q message headers
  obtain ⟨results, after, run, length, sameQuery, actions⟩ := executions_trace .own
    [.refused "down", .answered ⟨200, 0, .absent, .error "no payload"⟩] ⟨q, 0, [], []⟩
  refine ⟨results, after, run, length, sameQuery, ?_⟩
  rw [actions]
  rfl

end SolrRequest.Query
