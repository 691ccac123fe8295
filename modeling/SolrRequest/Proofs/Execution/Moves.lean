import SolrRequest.Proofs.Execution.Run
import SolrRequest.Proofs.Query.Mode

/-!
# Calls and executions in any order

A query is called and executed in turn, with any arguments and any answers. An execution leaves the
query as it is, so that the query is always the one that its calls alone have made.
-/

namespace SolrRequest

/-- What can be done with a query. -/
inductive Move
  | call (c : Call)
  | execute (client : Client) (d : Delivery)

namespace Move

def call? : Move → Option Call
  | call c => some c
  | execute _ _ => none

theorem call_mem_calls {moves : List Move} {c : Call} :
    c ∈ moves.filterMap call? ↔ call c ∈ moves := by
  rw [List.mem_filterMap]
  constructor
  · rintro ⟨m, present, called⟩
    cases m with
    | call d =>
      cases called
      exact present
    | execute client d => cases called
  · intro present
    exact ⟨call c, present, rfl⟩

end Move

namespace ExecutionState

def start (q : Query) : ExecutionState :=
  { query := q, sessions := 0, actions := [], records := [] }

/-- The state after a move. What was done before a fault stays done. -/
def after (s : ExecutionState) : Move → ExecutionState
  | .call c =>
    { s with query := s.query.after c, records := s.records ++ s.query.reports c }
  | .execute client d =>
    match (Query.execute client d).run s with
    | .ok _ t => t
    | .error _ t => t

def run (s : ExecutionState) (moves : List Move) : ExecutionState :=
  moves.foldl after s

theorem query_after_execute (s : ExecutionState) (client : Client) (d : Delivery) :
    (s.after (.execute client d)).query = s.query := by
  obtain ⟨docs, rs, _, executed⟩ := Query.run_execute client d s
  rw [after, executed]
  rfl

theorem query_run (s : ExecutionState) (moves : List Move) :
    (s.run moves).query = s.query.run (moves.filterMap Move.call?) := by
  induction moves generalizing s with
  | nil => rfl
  | cons m moves inductionHypothesis =>
    have rest := inductionHypothesis (s.after m)
    cases m with
    | call c => exact rest
    | execute client d =>
      rw [query_after_execute] at rest
      exact rest

end ExecutionState

namespace Query

/-- The query that calls and executions in any order make of a new one. -/
def reached (baseUrl : Option String) (endpoint : Endpoint) (moves : List Move) : Query :=
  ((ExecutionState.start (new baseUrl endpoint)).run moves).query

theorem reached_eq (baseUrl : Option String) (endpoint : Endpoint) (moves : List Move) :
    reached baseUrl endpoint moves = (new baseUrl endpoint).run (moves.filterMap Move.call?) :=
  ExecutionState.query_run _ moves

theorem mode_reached {baseUrl : Option String} {endpoint : Endpoint} {moves : List Move} :
    (reached baseUrl endpoint moves).mode = "POST" ↔ .call .switchToPost ∈ moves := by
  rw [mode_eq_post, reached_eq, isPost_run, Move.call_mem_calls]
  simp [new, isPost]

/-- In every state that calls and executions of a new query lead to: it has a main query exactly if
a parameter of that name, or a clause of the body, is sent; its base is the one that it was made
with; it sends a body exactly if a change to one was called, and then it does so in every later
state; it has no body exactly if it sends parameters, and no parameters are written if it sends a
body. -/
theorem reached_isConsistent (baseUrl : Option String) (endpoint : Endpoint) (moves : List Move) :
    let q := reached baseUrl endpoint moves
    (q.hasQuery = true ↔ match q.request with
      | .get params => ∃ clause, ("q", clause) ∈ params.pairs
      | .post body => body.query ≠ []) ∧
      q.baseUrl = baseUrl ∧
      (q.mode = "POST" ↔ .call .switchToPost ∈ moves) ∧
      (∀ later, q.mode = "POST" → (reached baseUrl endpoint (moves ++ later)).mode = "POST") ∧
      (q.postBody? = none ↔ q.mode = "GET") ∧
      (q.mode = "POST" → q.queryString = "") := by
  intro q
  refine ⟨?_, ?_, mode_reached, ?_, ?_, ?_⟩
  · have consistent := (isConsistent_new baseUrl endpoint).run (moves.filterMap Move.call?)
    rw [← reached_eq] at consistent
    exact consistent
  · rw [show q = _ from reached_eq baseUrl endpoint moves, baseUrl_run]
    rfl
  · intro later post
    apply mode_reached.mpr
    exact List.mem_append_left later (mode_reached.mp post)
  · rw [postBody?_eq_none_iff, mode_eq_get]
  · intro post
    exact queryString_of_isPost ((mode_eq_post q).mp post)

end Query

end SolrRequest
