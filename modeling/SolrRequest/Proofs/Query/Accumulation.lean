import SolrRequest.Proofs.Call.Meaning

/-!
# What a run accumulates

Parameters are appended and members of a body are overwritten. Without a change to a body, a run
leaves one parameter for each accepted call, in the order of the calls. With one, the body holds
what was accepted after the first such change: all clauses, and the last value of every other
member.
-/

namespace SolrRequest

namespace Edit

def clause? : Edit → Option String
  | query s => some s
  | _ => none

def filterClause? : Edit → Option String
  | filter s => some s
  | _ => none

def order? : Edit → Option String
  | sort order => some order
  | _ => none

def names? : Edit → Option (List String)
  | fields names => some names
  | _ => none

def offset? : Edit → Option Int
  | start n => some n
  | _ => none

def count? : Edit → Option Int
  | limit n => some n
  | _ => none

end Edit

namespace Call

theorem eq_switchToPost_of_edit? {c : Call} (edit : c.edit? = some .switchToPost) :
    c = switchToPost := by
  cases c with
  | switchToPost => rfl
  | _ => simp [edit?, Option.bind_eq_some_iff] at edit

theorem switchToPost_notMem_edits {calls : List Call} (absent : switchToPost ∉ calls) :
    Edit.switchToPost ∉ edits calls := by
  intro membership
  obtain ⟨c, present, edit⟩ := List.mem_filterMap.mp membership
  exact absent (eq_switchToPost_of_edit? edit ▸ present)

theorem edits_append (before after : List Call) :
    edits (before ++ after) = edits before ++ edits after :=
  List.filterMap_append

end Call

theorem Params.render_eq (pairs : List (String × String)) : render ⟨pairs⟩ =
    if pairs = [] then "" else "?" ++ "&".intercalate (pairs.map fun p => p.1 ++ "=" ++ p.2) := by
  rw [render]
  exact if_congr List.isEmpty_iff rfl rfl

namespace Body

/-- The body after edits: clauses are added, and of everything else the last value stays. -/
def putAll (b : Body) (es : List Edit) : Body :=
  { query := b.query ++ es.filterMap Edit.clause?
    filter := b.filter ++ es.filterMap Edit.filterClause?
    sort := (es.filterMap Edit.order?).getLast?.or b.sort
    fields := (es.filterMap Edit.names?).getLast?.or b.fields
    start := (es.filterMap Edit.offset?).getLast?.or b.start
    limit := (es.filterMap Edit.count?).getLast?.or b.limit }

theorem foldl_put (b : Body) (es : List Edit) : es.foldl put b = b.putAll es := by
  induction es generalizing b with
  | nil => simp [putAll]
  | cons e es inductionHypothesis =>
    rw [List.foldl_cons, inductionHypothesis]
    cases e <;> simp [putAll, put, Edit.clause?, Edit.filterClause?, Edit.order?, Edit.names?,
      Edit.offset?, Edit.count?, List.filterMap_cons, List.getLast?_cons]

def valuesOf (name : String) (members : List (String × Value)) : List Value :=
  (members.filter fun m => m.1 == name).map Prod.snd

theorem valuesOf_filterMap {α : Type*} (name : String) (select : Edit → Option α) (f : α → Value)
    (same : ∀ e : Edit, (e.member?.filter fun m => m.1 == name).map Prod.snd = (select e).map f)
    (es : List Edit) : valuesOf name (es.filterMap Edit.member?) = (es.filterMap select).map f := by
  rw [valuesOf, List.filter_filterMap, List.map_filterMap, List.map_filterMap]
  exact List.filterMap_congr fun e _ => same e

/-- The members that edits set in an empty body: those of clauses in any case, any other one if it
is set, to its last value. -/
theorem toValue_putAll_empty (es : List Edit) : (empty.putAll es).toValue =
    let values (name : String) := valuesOf name (es.filterMap Edit.member?)
    let last (name : String) := (values name).getLast?.toList.map fun v => (Value.text name, v)
    .dict ([(.text "query", .list (values "query")), (.text "filter", .list (values "filter"))] ++
      last "sort" ++ last "fields" ++ last "start" ++ last "limit") := by
  have query := valuesOf_filterMap "query" Edit.clause? .text (fun e => by cases e <;> rfl) es
  have filter :=
    valuesOf_filterMap "filter" Edit.filterClause? .text (fun e => by cases e <;> rfl) es
  have sort := valuesOf_filterMap "sort" Edit.order? .text (fun e => by cases e <;> rfl) es
  have fields := valuesOf_filterMap "fields" Edit.names? texts (fun e => by cases e <;> rfl) es
  have start := valuesOf_filterMap "start" Edit.offset? .int (fun e => by cases e <;> rfl) es
  have limit := valuesOf_filterMap "limit" Edit.count? .int (fun e => by cases e <;> rfl) es
  simp only [query, filter, sort, fields, start, limit, List.getLast?_map, toValue, members, putAll,
    empty, texts, List.nil_append, Option.or_none]

end Body

namespace Request

theorem put_get_of_ne (params : Params) {e : Edit} (different : e ≠ .switchToPost) :
    (get params).put e = get ⟨params.pairs ++ e.pair?.toList⟩ := by
  cases e with
  | switchToPost => exact absurd rfl different
  | _ => rfl

theorem put_post (body : Body) (e : Edit) : (post body).put e = post (body.put e) := by
  cases e <;> rfl

theorem foldl_put_get (params : Params) {es : List Edit} (unchanged : .switchToPost ∉ es) :
    es.foldl put (get params) = get ⟨params.pairs ++ es.filterMap Edit.pair?⟩ := by
  induction es generalizing params with
  | nil => simp
  | cons e es inductionHypothesis =>
    have different : e ≠ .switchToPost := (List.ne_of_not_mem_cons unchanged).symm
    rw [List.foldl_cons, put_get_of_ne params different,
      inductionHypothesis _ (List.not_mem_of_not_mem_cons unchanged), List.filterMap_cons]
    cases e.pair? <;> simp

theorem foldl_put_post (body : Body) (es : List Edit) :
    es.foldl put (post body) = post (body.putAll es) := by
  rw [← Body.foldl_put]
  induction es generalizing body with
  | nil => rfl
  | cons e es inductionHypothesis =>
    rw [List.foldl_cons, put_post, inductionHypothesis, List.foldl_cons]

end Request

namespace Query

theorem run_request (q : Query) {calls : List Call} (writable : ∀ c ∈ calls, c.Writable) :
    (q.run calls).request = (Call.edits calls).foldl Request.put q.request := by
  rw [q.run_eq_carryAll writable]
  exact q.carryAll_request _

theorem run_request_get (baseUrl : Option String) (endpoint : Endpoint) {calls : List Call}
    (writable : ∀ c ∈ calls, c.Writable) (absent : .switchToPost ∉ calls) :
    ((new baseUrl endpoint).run calls).request =
      .get ⟨(Call.edits calls).filterMap Edit.pair?⟩ := by
  rw [run_request _ writable, new,
    Request.foldl_put_get _ (Call.switchToPost_notMem_edits absent)]
  rfl

theorem run_request_post (baseUrl : Option String) (endpoint : Endpoint)
    {before after : List Call}
    (writable : ∀ c ∈ before ++ .switchToPost :: after, c.Writable)
    (absent : .switchToPost ∉ before) :
    ((new baseUrl endpoint).run (before ++ .switchToPost :: after)).request =
      .post (Body.empty.putAll (Call.edits after)) := by
  have split : Call.edits (before ++ .switchToPost :: after) =
      Call.edits before ++ .switchToPost :: Call.edits after :=
    Call.edits_append _ _
  rw [run_request _ writable, split, List.foldl_append, List.foldl_cons, new,
    Request.foldl_put_get _ (Call.switchToPost_notMem_edits absent)]
  exact Request.foldl_put_post _ _

/-- Without a change to a body, a run from a new query leaves the parameters that its calls tell, in
the order of the calls. After the first change there are no parameters, and the body has what the
calls tell since then: every clause, and of each other member the last value, which is left out if
no call told it. -/
theorem run_accumulates (baseUrl : Option String) (endpoint : Endpoint) (calls : List Call)
    (writable : ∀ c ∈ calls, c.Writable) :
    let q := (new baseUrl endpoint).run calls
    (.switchToPost ∉ calls → ∃ told, Call.Told calls told ∧ q.postBody? = none ∧
      q.request = .get ⟨told.map Prod.fst⟩ ∧
      q.queryString = if told = [] then ""
        else "?" ++ "&".intercalate (told.map fun ((key, text), _) => key ++ "=" ++ text)) ∧
    ∀ before after, calls = before ++ .switchToPost :: after → .switchToPost ∉ before →
      ∃ told, Call.Told after told ∧ q.queryString = "" ∧
        let values (name : String) := Body.valuesOf name (told.map Prod.snd)
        let last (name : String) := (values name).getLast?.toList.map fun v => (Value.text name, v)
        q.postBody?.map Body.toValue = some (.dict
          ([(.text "query", .list (values "query")), (.text "filter", .list (values "filter"))] ++
            last "sort" ++ last "fields" ++ last "start" ++ last "limit")) := by
  intro q
  constructor
  · intro absent
    have sent := run_request_get baseUrl endpoint writable absent
    rw [Edit.filterMap_pair?] at sent
    refine ⟨_, Call.told_iff.mpr rfl, ?_, sent, ?_⟩
    · rw [postBody?, sent]
    · rw [queryString, sent]
      dsimp only
      rw [Params.render_eq, List.map_map]
      exact if_congr List.map_eq_nil_iff rfl rfl
  · rintro before after rfl absent
    have sent := run_request_post baseUrl endpoint writable absent
    refine ⟨_, Call.told_iff.mpr rfl, ?_, ?_⟩
    · rw [queryString, sent]
    · rw [postBody?, sent, ← Edit.filterMap_member?]
      exact congrArg some (Body.toValue_putAll_empty (Call.edits after))

/-- A second change to a body and a call that is not accepted leave no trace in it. -/
theorem run_accumulates_since_first_switch :
    let calls : List Call := [.query (.text "a"), .limit (.int 5), .switchToPost,
      .filter (.text "b"), .start (.int 3), .fields (.text "c"), .switchToPost,
      .sort (.tuple [.field .title, .text "x"]) (.list [.bool false]), .start (.text " 7 ")]
    (∀ c ∈ calls, c.Writable) ∧
      ((new none .standard).run calls).postBody?.map Body.toValue =
        some (.dict [(.text "query", .list []), (.text "filter", .list [.text "b"]),
          (.text "sort", .text "title desc, x asc"), (.text "start", .int 7)]) := by
  intro calls
  have writable : ∀ c ∈ calls, c.Writable := by
    simp [calls, Call.Writable, Value.NumberWritable, Integer.Writable, Integer.digits_of_lt,
      Integer.digitLimit]
  have accumulated := run_accumulates none .standard calls writable
  obtain ⟨told, heard, _, body⟩ :=
    accumulated.2 [.query (.text "a"), .limit (.int 5)] _ rfl (by simp)
  obtain rfl := Call.told_iff.mp heard
  exact ⟨writable, body⟩

end Query

end SolrRequest
