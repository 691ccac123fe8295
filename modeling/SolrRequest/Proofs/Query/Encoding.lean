import SolrRequest.Proofs.Query.Accumulation

/-!
# The two encodings agree

The same calls, once on a query that adds parameters and once on one that changes a body, keep the
two in step: clauses are the values under their keys, and every other member is the last value under
its key. The rest of the two queries stays equal. One call keeps this relation, hence so does a run.
-/

namespace SolrRequest

namespace Params

/-- The values under a key, in the order in which they were added. -/
def values (p : Params) (key : String) : List String :=
  (p.pairs.filter fun pair => pair.1 == key).map Prod.snd

theorem values_append_pair (pairs : List (String × String)) (name value key : String) :
    values ⟨pairs ++ [(name, value)]⟩ key =
      if name = key then values ⟨pairs⟩ key ++ [value] else values ⟨pairs⟩ key := by
  by_cases same : name = key <;> simp [values, List.filter_append, same]

end Params

/-- The parameters and the body say the same. -/
structure Encodes (params : Params) (body : Body) : Prop where
  query : params.values "q" = body.query
  filter : params.values "fq" = body.filter
  sort : (params.values "sort").getLast? = body.sort
  fields : (params.values "fl").getLast? = body.fields.map (",".intercalate ·)
  start : (params.values "start").getLast? = body.start.map Integer.decimal
  limit : (params.values "rows").getLast? = body.limit.map Integer.decimal

namespace Encodes

theorem empty : Encodes .empty .empty :=
  ⟨rfl, rfl, rfl, rfl, rfl, rfl⟩

/-- An edit of the parameters and of the body. -/
theorem put {params : Params} {body : Body} (encodes : Encodes params body) (e : Edit) :
    Encodes ⟨params.pairs ++ e.pair?.toList⟩ (body.put e) := by
  obtain ⟨query, filter, sort, fields, start, limit⟩ := encodes
  -- Only the edit's own key gets a value, the last one there.
  cases e <;> constructor <;> simp [Params.values_append_pair, Edit.pair?, Body.put, *]

end Encodes

namespace Query

/-- The first query sends parameters, the second a body that says the same, and the two do not
differ in anything else that calls change. -/
structure Agree (g p : Query) : Prop where
  rejected : g.rejected = p.rejected
  mapping : g.mapping = p.mapping
  restrictRoles : g.restrictRoles = p.restrictRoles
  hasQuery : g.hasQuery = p.hasQuery
  sent : ∃ params body, g.request = .get params ∧ p.request = .post body ∧ Encodes params body

namespace Agree

theorem new (baseUrl : Option String) (endpoint : Endpoint) :
    Agree (.new baseUrl endpoint) ((Query.new baseUrl endpoint).after .switchToPost) :=
  ⟨rfl, rfl, rfl, rfl, .empty, .empty, rfl, rfl, .empty⟩

variable {g p : Query}

theorem carry (agree : Agree g p) {e : Edit} (different : e ≠ .switchToPost) :
    Agree (g.carry e) (p.carry e) := by
  obtain ⟨rejected, mapping, restrictRoles, hasQuery, params, body, get, post, encodes⟩ := agree
  refine ⟨rejected, ?_, ?_, ?_, _, _, ?_, ?_, encodes.put e⟩
  · rw [Query.carry, Query.carry, mapping]
  · cases e with
    | restrictByRoles => rfl
    | _ => exact restrictRoles
  · cases e with
    | switchToPost => exact absurd rfl different
    | query s => rfl
    | _ => exact hasQuery
  · rw [Query.carry, get, Request.put_get_of_ne params different]
  · rw [Query.carry, post, Request.put_post]

theorem reject (agree : Agree g p) (c : Call) : Agree (g.reject c) (p.reject c) := by
  obtain ⟨rejected, mapping, restrictRoles, hasQuery, sent⟩ := agree
  refine ⟨?_, mapping, restrictRoles, hasQuery, sent⟩
  rw [Query.reject, Query.reject, rejected]

/-- One call keeps the two queries in step. -/
theorem after (agree : Agree g p) {c : Call} (writable : c.Writable)
    (different : c ≠ .switchToPost) : Agree (g.after c) (p.after c) := by
  cases edit : c.edit? with
  | some e =>
    have unchanged : e ≠ .switchToPost := by
      rintro rfl
      exact different (Call.eq_switchToPost_of_edit? edit)
    rw [after_eq_of_call (g.call_eq_carry edit writable),
      after_eq_of_call (p.call_eq_carry edit writable)]
    exact agree.carry unchanged
  | none =>
    have refused := c.edit?_eq_none_iff.mp edit
    rw [after_eq_of_call (g.call_eq_reject refused), after_eq_of_call (p.call_eq_reject refused)]
    exact agree.reject c

theorem run (agree : Agree g p) {calls : List Call} (writable : ∀ c ∈ calls, c.Writable)
    (absent : .switchToPost ∉ calls) : Agree (g.run calls) (p.run calls) := by
  induction calls generalizing g p with
  | nil => exact agree
  | cons c calls inductionHypothesis =>
    obtain ⟨writableFirst, writableRest⟩ := List.forall_mem_cons.mp writable
    have different : c ≠ .switchToPost := (List.ne_of_not_mem_cons absent).symm
    exact inductionHypothesis (agree.after writableFirst different) writableRest
      (List.not_mem_of_not_mem_cons absent)

end Agree

/-- The same calls on a new query, as parameters and as a body: clauses are the values of `q` and
`fq` in order, every other member is the last value of its parameter and missing where there is
none, and the two queries do not differ in anything else that calls change. -/
theorem run_encodings_agree (baseUrl : Option String) (endpoint : Endpoint) (calls : List Call)
    (writable : ∀ c ∈ calls, c.Writable) (absent : .switchToPost ∉ calls) :
    let g := (Query.new baseUrl endpoint).run calls
    let p := ((Query.new baseUrl endpoint).after .switchToPost).run calls
    g.rejected = p.rejected ∧ g.mapping = p.mapping ∧ g.restrictRoles = p.restrictRoles ∧
      g.hasQuery = p.hasQuery ∧
      ∃ params body, g.request = .get params ∧ p.request = .post body ∧
        params.values "q" = body.query ∧ params.values "fq" = body.filter ∧
        (params.values "sort").getLast? = body.sort ∧
        (params.values "fl").getLast? = body.fields.map (",".intercalate ·) ∧
        (params.values "start").getLast? = body.start.map Integer.decimal ∧
        (params.values "rows").getLast? = body.limit.map Integer.decimal := by
  have agree := (Agree.new baseUrl endpoint).run writable absent
  obtain ⟨params, body, get, post, encodes⟩ := agree.sent
  exact ⟨agree.rejected, agree.mapping, agree.restrictRoles, agree.hasQuery, params, body, get,
    post, encodes.query, encodes.filter, encodes.sort, encodes.fields, encodes.start,
    encodes.limit⟩

/-- Two row counts, of which the last one stands in the body, and a clause that is not accepted. -/
theorem run_encodings_agree_rows :
    let calls : List Call := [.limit (.int 5), .query (.text " "), .filter (.field .title),
      .limit (.text "08")]
    let g := (new none .standard).run calls
    let p := ((new none .standard).after .switchToPost).run calls
    (∀ c ∈ calls, c.Writable) ∧ .switchToPost ∉ calls ∧ g.rejected = p.rejected ∧
      ∃ params body, g.request = .get params ∧ p.request = .post body ∧
        params.pairs = [("rows", "5"), ("fq", "title"), ("rows", "8")] ∧ body.limit = some 8 ∧
        (params.values "rows").getLast? = body.limit.map Integer.decimal := by
  intro calls g p
  have writable : ∀ c ∈ calls, c.Writable := by
    simp [calls, Call.Writable, Value.NumberWritable, Integer.Writable, Integer.digits_of_lt,
      Integer.digitLimit]
  have absent : .switchToPost ∉ calls := by simp [calls]
  have get : g.request = .get ⟨[("rows", "5"), ("fq", "title"), ("rows", "8")]⟩ := by decide +kernel
  have post : p.request = .post ⟨[], ["title"], none, none, none, some 8⟩ := by decide
  obtain ⟨rejected, _, _, _, params, body, sent, sentBody, _, _, _, _, _, rows⟩ :=
    run_encodings_agree none .standard calls writable absent
  obtain rfl := Request.get.inj (get.symm.trans sent)
  obtain rfl := Request.post.inj (post.symm.trans sentBody)
  exact ⟨writable, absent, rejected, _, _, get, post, rfl, rfl, rows⟩

end Query

end SolrRequest
