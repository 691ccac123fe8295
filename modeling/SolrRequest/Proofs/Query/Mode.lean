import SolrRequest.Proofs.Query.Accumulation

/-!
# Mode and main query

The change to a body is for good, and a query says that it has a main query exactly if one is sent.
Both are kept by a call, whatever becomes of it, and so by a run.
-/

namespace SolrRequest

theorem Call.edit?_eq_switchToPost {c : Call} :
    c.edit? = some .switchToPost ↔ c = switchToPost := by
  refine ⟨eq_switchToPost_of_edit?, ?_⟩
  rintro rfl
  rfl

namespace Request

/-- A main query is sent: as a parameter, or as a clause of the body. -/
def HasMainQuery : Request → Prop
  | get params => ∃ clause, ("q", clause) ∈ params.pairs
  | post body => body.query ≠ []

theorem hasMainQuery_put_query (r : Request) (clause : String) :
    (r.put (.query clause)).HasMainQuery := by
  cases r with
  | get params => exact ⟨clause, List.mem_append_right _ (List.mem_singleton_self _)⟩
  | post body => exact List.concat_ne_nil clause body.query

/-- Other edits neither add a main query nor take one away, save that a change to a body drops all
parameters. -/
theorem hasMainQuery_put {r : Request} {e : Edit}
    (kept : ∀ params, r = get params → e ≠ .switchToPost) (noQuery : ∀ clause, e ≠ .query clause) :
    (r.put e).HasMainQuery ↔ r.HasMainQuery := by
  cases r with
  | get params =>
    rw [put_get_of_ne params (kept params rfl)]
    have otherKey : ∀ clause, ("q", clause) ∉ e.pair?.toList := by
      intro clause
      cases e with
      | query s => exact absurd rfl (noQuery s)
      | _ => simp [Edit.pair?]
    simp only [HasMainQuery, List.mem_append, otherKey, or_false]
  | post body =>
    rw [put_post]
    cases e with
    | query s => exact absurd rfl (noQuery s)
    | _ => rfl

end Request

namespace Query

/-- The flag of a query tells whether a main query is sent. -/
def IsConsistent (q : Query) : Prop :=
  q.hasQuery = true ↔ q.request.HasMainQuery

theorem isConsistent_new (baseUrl : Option String) (endpoint : Endpoint) :
    (new baseUrl endpoint).IsConsistent := by
  simp [IsConsistent, new, Request.HasMainQuery, Params.empty]

theorem IsConsistent.carry {q : Query} (consistent : q.IsConsistent) (e : Edit) :
    (q.carry e).IsConsistent := by
  unfold IsConsistent at consistent ⊢
  rw [Query.carry]
  dsimp only
  cases e with
  | query clause =>
    exact iff_of_true rfl (q.request.hasMainQuery_put_query clause)
  | switchToPost =>
    cases request : q.request with
    | get params =>
      -- The parameters are dropped, and the flag with them.
      simp [hasQueryAfter, isPost, request, Request.put, Request.HasMainQuery, Body.empty]
    | post body =>
      rw [request] at consistent
      simpa [hasQueryAfter, isPost, request, Request.put_post, Body.put] using consistent
  | _ =>
    rw [Request.hasMainQuery_put (by simp) (by simp)]
    exact consistent

theorem IsConsistent.after {q : Query} (consistent : q.IsConsistent) (c : Call) :
    (q.after c).IsConsistent := by
  rcases q.after_cases c with ⟨_, after⟩ | ⟨e, _, ⟨_, after⟩ | ⟨_, _, after⟩⟩
  · rw [after]
    exact consistent
  · rw [after]
    exact consistent.carry e
  · rw [after]
    exact consistent

theorem IsConsistent.run {q : Query} (consistent : q.IsConsistent) (calls : List Call) :
    (q.run calls).IsConsistent := by
  induction calls generalizing q with
  | nil => exact consistent
  | cons c calls inductionHypothesis => exact inductionHypothesis (consistent.after c)

/-! ## Mode -/

theorem isPost_carry (q : Query) (e : Edit) :
    (q.carry e).isPost = true ↔ q.isPost = true ∨ e = .switchToPost := by
  unfold isPost carry
  cases q.request with
  | get params => cases e <;> simp [Request.put]
  | post body => simp [Request.put_post]

theorem isPost_after (q : Query) (c : Call) :
    (q.after c).isPost = true ↔ q.isPost = true ∨ c = .switchToPost := by
  rw [← Call.edit?_eq_switchToPost]
  rcases q.after_cases c with ⟨edit, after⟩ | ⟨e, edit, ⟨_, after⟩ | ⟨unwritable, _, after⟩⟩
  · rw [after, edit]
    simp [reject, isPost]
  · rw [after, edit, isPost_carry, Option.some.injEq]
  · have different : e ≠ .switchToPost := by
      rintro rfl
      exact unwritable trivial
    simp [after, edit, different]

theorem isPost_run (q : Query) (calls : List Call) :
    (q.run calls).isPost = true ↔ q.isPost = true ∨ .switchToPost ∈ calls := by
  induction calls generalizing q with
  | nil => simp [run]
  | cons c calls inductionHypothesis =>
    rw [run, List.foldl_cons, ← run, inductionHypothesis, isPost_after, List.mem_cons, or_assoc,
      eq_comm (a := c)]

theorem mode_eq_post (q : Query) : q.mode = "POST" ↔ q.isPost = true := by
  rw [mode]
  cases q.isPost <;> simp

theorem mode_eq_get (q : Query) : q.mode = "GET" ↔ q.isPost = false := by
  rw [mode]
  cases q.isPost <;> simp

theorem baseUrl_after (q : Query) (c : Call) : (q.after c).baseUrl = q.baseUrl := by
  rcases q.after_cases c with ⟨_, after⟩ | ⟨e, _, ⟨_, after⟩ | ⟨_, _, after⟩⟩
  · rw [after, reject]
  · rw [after, carry]
  · rw [after]

theorem endpoint_after (q : Query) (c : Call) : (q.after c).endpoint = q.endpoint := by
  rcases q.after_cases c with ⟨_, after⟩ | ⟨e, _, ⟨_, after⟩ | ⟨_, _, after⟩⟩
  · rw [after, reject]
  · rw [after, carry]
  · rw [after]

theorem baseUrl_run (q : Query) (calls : List Call) : (q.run calls).baseUrl = q.baseUrl := by
  induction calls generalizing q with
  | nil => rfl
  | cons c calls inductionHypothesis =>
    exact (inductionHypothesis (q.after c)).trans (q.baseUrl_after c)

theorem endpoint_run (q : Query) (calls : List Call) : (q.run calls).endpoint = q.endpoint := by
  induction calls generalizing q with
  | nil => rfl
  | cons c calls inductionHypothesis =>
    exact (inductionHypothesis (q.after c)).trans (q.endpoint_after c)

theorem queryString_of_isPost {q : Query} (post : q.isPost = true) : q.queryString = "" := by
  unfold isPost at post
  unfold queryString
  split at post
  · cases post
  · rfl

theorem postBody?_eq_none_iff (q : Query) : q.postBody? = none ↔ q.isPost = false := by
  unfold postBody? isPost
  cases q.request <;> simp

end Query

end SolrRequest
