import SolrRequest.Proofs.Call.Acceptance
import SolrRequest.Query

/-!
# What a call does

The effect of an edit, told for each part of a query on its own: what is sent, whether it holds a
main query, the field mapping, the restriction to roles. An accepted call has the effect of its
edit, any other call is recorded, and a run is the effect of the edits in order.
-/

namespace SolrRequest

namespace Edit

/-- The parameter that an edit adds where parameters are sent. -/
def pair? : Edit → Option (String × String)
  | query s => some ("q", s)
  | filter s => some ("fq", s)
  | fields names => some ("fl", ",".intercalate names)
  | sort order => some ("sort", order)
  | start n => some ("start", Integer.decimal n)
  | limit n => some ("rows", Integer.decimal n)
  | _ => none

/-- The entries that an edit adds to the field mapping. -/
def entries : Edit → FieldMapping
  | map entries => entries
  | _ => []

/-- The number of an edit has no more digits than can be written. -/
def Writable : Edit → Prop
  | start n => Integer.Writable n
  | limit n => Integer.Writable n
  | _ => True

instance : DecidablePred Writable
  | start n | limit n => inferInstanceAs (Decidable (Integer.Writable n))
  | switchToPost | query _ | filter _ | fields _ | sort _ | restrictByRoles | map _ =>
    isTrue trivial

end Edit

namespace Call

def edits (calls : List Call) : List Edit :=
  calls.filterMap edit?

/-- What is recorded of a call that is not accepted: its name, and what it was given. Only of an
order the flags are left out. -/
def rejection : Call → Rejection
  | switchToPost => ⟨"switch_to_post", .null⟩
  | query clause => ⟨"query", clause⟩
  | filter clause => ⟨"filter", clause⟩
  | fields names => ⟨"fields", names⟩
  | sort names _ => ⟨"sort", names⟩
  | start offset => ⟨"start", offset⟩
  | limit count => ⟨"limit", count⟩
  | restrictByRoles => ⟨"restrict_by_roles", .null⟩
  | addFieldMapping source destination => ⟨"add_field_mapping", .tuple [source, destination]⟩
  | addFieldMappingTable table => ⟨"add_field_mapping_table", table⟩

theorem rejection_eq (c : Call) : c.rejection = ⟨c.method, c.argument⟩ := by
  cases c <;> rfl

/-- What is recorded of calls, of those that are not accepted. -/
def rejections (calls : List Call) : List Rejection :=
  (calls.filter fun c => !c.accepts).map rejection

theorem writable_of_edit? {c : Call} {e : Edit} (edit : c.edit? = some e)
    (writable : c.Writable) : e.Writable := by
  cases c with
  | start offset =>
    obtain ⟨n, value, rfl⟩ := Option.map_eq_some_iff.mp edit
    exact Value.writable_of_integer? value writable
  | limit count =>
    obtain ⟨n, value, rfl⟩ := Option.map_eq_some_iff.mp edit
    exact Value.writable_of_integer? value writable
  | addFieldMapping source destination =>
    simp only [edit?, Option.bind_eq_bind, Option.bind_eq_some_iff, Option.pure_def,
      Option.some.injEq] at edit
    obtain ⟨s, _, d, _, rfl⟩ := edit
    trivial
  | switchToPost | restrictByRoles =>
    cases edit
    trivial
  | query | filter | fields | sort | addFieldMappingTable =>
    obtain ⟨x, _, rfl⟩ := Option.map_eq_some_iff.mp edit
    trivial

end Call

namespace Body

def put (b : Body) : Edit → Body
  | .query s => { b with query := b.query ++ [s] }
  | .filter s => { b with filter := b.filter ++ [s] }
  | .fields names => { b with fields := some names }
  | .sort order => { b with sort := some order }
  | .start n => { b with start := some n }
  | .limit n => { b with limit := some n }
  | _ => b

end Body

namespace Request

/-- The change to a body drops the parameters, and does nothing to a body. -/
def put : Request → Edit → Request
  | get _, .switchToPost => post .empty
  | get params, e => get ⟨params.pairs ++ e.pair?.toList⟩
  | post body, e => post (body.put e)

@[simp] theorem put_restrictByRoles (r : Request) : r.put .restrictByRoles = r := by
  cases r <;> simp [put, Edit.pair?, Body.put]

@[simp] theorem put_map (r : Request) (entries : FieldMapping) : r.put (.map entries) = r := by
  cases r <;> simp [put, Edit.pair?, Body.put]

end Request

namespace Query

def hasQueryAfter (q : Query) : Edit → Bool
  | .query _ => true
  | .switchToPost => q.isPost && q.hasQuery
  | _ => q.hasQuery

/-- Whether the answer is restricted to roles after an edit. -/
def restrictRolesAfter (q : Query) : Edit → Bool
  | .restrictByRoles => true
  | _ => q.restrictRoles

def carry (q : Query) (e : Edit) : Query :=
  { q with
    request := q.request.put e
    hasQuery := q.hasQueryAfter e
    mapping := Entries.putAll q.mapping e.entries
    restrictRoles := q.restrictRolesAfter e }

theorem recordNumber_eq_record (q : Query) (key : String) {n : Int}
    (writable : Integer.Writable n) (change : Body → Body) :
    q.recordNumber key n change = .ok (q.record key (Integer.decimal n) change) := by
  unfold recordNumber record
  cases q.request with
  | get params => rw [Integer.write_of_writable writable]; rfl
  | post body => rfl

theorem perform_eq_carry (q : Query) {e : Edit} (writable : e.Writable) :
    q.perform e = .ok (q.carry e) := by
  obtain ⟨baseUrl, endpoint, request, mapping, restrictRoles, hasQuery, rejected⟩ := q
  cases e with
  | start n => rw [perform, recordNumber_eq_record _ _ writable]; cases request <;> rfl
  | limit n => rw [perform, recordNumber_eq_record _ _ writable]; cases request <;> rfl
  | restrictByRoles => rw [perform, carry, Request.put_restrictByRoles]; rfl
  | map entries => rw [perform, carry, Request.put_map]; rfl
  | _ => cases request <;> rfl

theorem call_eq_carry (q : Query) {c : Call} {e : Edit} (edit : c.edit? = some e)
    (writable : c.Writable) : q.call c = .ok (q.carry e) := by
  rw [call, edit]
  exact q.perform_eq_carry (Call.writable_of_edit? edit writable)

theorem call_eq_reject (q : Query) {c : Call} (refused : c.accepts = false) :
    q.call c = .ok (q.reject c) := by
  rw [call, c.edit?_eq_none_iff.mpr refused]

theorem after_eq_of_call {q r : Query} {c : Call} (result : q.call c = .ok r) :
    q.after c = r := by
  rw [after, result]
  rfl

/-- A number is written for a parameter only, so that a body takes any. -/
theorem perform_eq_carry_of_isPost {q : Query} (post : q.isPost = true) (e : Edit) :
    q.perform e = .ok (q.carry e) := by
  cases e with
  | start n | limit n =>
    unfold isPost at post
    split at post
    · cases post
    · next body request =>
      rw [perform, recordNumber, carry, request]
      rfl
  | _ => exact q.perform_eq_carry trivial

theorem perform_eq_error {q : Query} (get : q.isPost = false) {e : Edit}
    (unwritable : ¬ e.Writable) : q.perform e = .error .tooLong := by
  unfold isPost at get
  split at get
  · next params request =>
    cases e with
    | start n | limit n =>
      rw [perform, recordNumber, request, Integer.write, if_pos (Nat.lt_of_not_le unwritable)]
      rfl
    | _ => exact absurd trivial unwritable
  · cases get

/-- What any call does: it is recorded, or its edit is carried out, unless it has a number with too
many digits for a parameter. -/
theorem after_cases (q : Query) (c : Call) :
    c.edit? = none ∧ q.after c = q.reject c ∨
      ∃ e, c.edit? = some e ∧
        ((e.Writable ∨ q.isPost = true) ∧ q.after c = q.carry e ∨
          ¬ e.Writable ∧ q.isPost = false ∧ q.after c = q) := by
  cases edit : c.edit? with
  | none =>
    exact .inl ⟨rfl, after_eq_of_call (q.call_eq_reject (c.edit?_eq_none_iff.mp edit))⟩
  | some e =>
    refine .inr ⟨e, rfl, ?_⟩
    have call : q.call c = q.perform e := by rw [Query.call, edit]
    by_cases writable : e.Writable
    · exact .inl ⟨.inl writable, after_eq_of_call (call.trans (q.perform_eq_carry writable))⟩
    · cases post : q.isPost with
      | true =>
        exact .inl ⟨.inr rfl, after_eq_of_call (call.trans (perform_eq_carry_of_isPost post e))⟩
      | false =>
        refine .inr ⟨writable, rfl, ?_⟩
        rw [after, call, perform_eq_error post writable]
        rfl

/-! ## Runs -/

/-- The query with edits carried out one after the other. -/
def carryAll (q : Query) (es : List Edit) : Query :=
  es.foldl carry q

/-- Edits leave the recorded calls alone and do not look at them. -/
theorem carryAll_rejected (q : Query) (rejected : List Rejection) (es : List Edit) :
    carryAll { q with rejected } es = { q.carryAll es with rejected } := by
  induction es generalizing q with
  | nil => rfl
  | cons e es inductionHypothesis => exact inductionHypothesis (q.carry e)

/-- A run is the effect of the edits of its accepted calls, with all other calls recorded. -/
theorem run_eq_carryAll (q : Query) {calls : List Call} (writable : ∀ c ∈ calls, c.Writable) :
    q.run calls = { q.carryAll (Call.edits calls) with
      rejected := q.rejected ++ Call.rejections calls } := by
  induction calls generalizing q with
  | nil => simp [run, Call.edits, Call.rejections, carryAll]
  | cons c calls inductionHypothesis =>
    obtain ⟨writableFirst, writableRest⟩ := List.forall_mem_cons.mp writable
    have rest := inductionHypothesis (q.after c) writableRest
    cases edit : c.edit? with
    | some e =>
      have accepted := Call.accepts_of_edit? edit
      have first : q.after c = q.carry e := after_eq_of_call (q.call_eq_carry edit writableFirst)
      rw [run, List.foldl_cons, ← run, rest, first]
      simp [Call.edits, Call.rejections, edit, accepted, carryAll, carry]
    | none =>
      have refused := c.edit?_eq_none_iff.mp edit
      have first : q.after c = q.reject c := after_eq_of_call (q.call_eq_reject refused)
      rw [run, List.foldl_cons, ← run, rest, first]
      simp [Call.edits, Call.rejections, edit, refused, reject, carryAll_rejected,
        Call.rejection_eq]

theorem carryAll_request (q : Query) (es : List Edit) :
    (q.carryAll es).request = es.foldl Request.put q.request := by
  induction es generalizing q with
  | nil => rfl
  | cons e es inductionHypothesis => exact inductionHypothesis (q.carry e)

end Query

end SolrRequest
