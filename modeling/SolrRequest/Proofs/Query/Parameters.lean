import SolrRequest.Proofs.Query.Accumulation
import SolrRequest.Proofs.Text.Cut

/-!
# What stands in a URL

The parameters that a run leaves, and the restriction to roles. The calls of the run may be any at
all: one that fails, because its number has too many digits, changes nothing. Every parameter has
one of six names, and its value is free of `&` if the texts of the accepted calls are.
-/

namespace SolrRequest

namespace SortOrder

theorem notMem_direction {c : Char} (outside : c ∉ "asc".toList ++ "desc".toList)
    (flag : Option Value) : c ∉ (direction flag).toList := by
  rw [List.mem_append, not_or] at outside
  unfold direction
  split
  · exact outside.1
  · exact outside.2

theorem notMem_terms {c : Char} (outside : c ∉ "asc".toList ++ "desc".toList) (noSpace : c ≠ ' ')
    {names : List String} (absent : ∀ s ∈ names, c ∉ s.toList) (flags : List Value) :
    ∀ s ∈ terms names flags, c ∉ s.toList := by
  induction names generalizing flags with
  | nil => simp [terms]
  | cons name names inductionHypothesis =>
    obtain ⟨absentFirst, absentRest⟩ := List.forall_mem_cons.mp absent
    have absentDirection := notMem_direction outside flags.head?
    rw [terms, List.forall_mem_cons]
    refine ⟨?_, inductionHypothesis absentRest flags.tail⟩
    rw [String.toList_append, String.toList_append]
    simp only [List.mem_append, not_or]
    exact ⟨⟨absentFirst, by simpa using noSpace⟩, absentDirection⟩

end SortOrder

/-- A name of a parameter with a value that does not end early. -/
def IsParameter (p : String × String) : Prop :=
  p.1 ∈ ["q", "fq", "fl", "sort", "start", "rows"] ∧ '&' ∉ p.2.toList

instance (p : String × String) : Decidable (IsParameter p) :=
  inferInstanceAs (Decidable (_ ∧ _))

namespace Call

def texts : Call → List String
  | query clause => clause.word?.toList
  | filter clause => clause.word?.toList
  | fields names => names.words?.getD []
  | sort names _ => names.names?.getD []
  | _ => []

/-- The parameter that a call adds. One with too many digits is not added. -/
def parameter? (c : Call) : Option (String × String) :=
  (c.edit?.filter fun e => e.Writable).bind Edit.pair?

theorem parameter?_of_edit? {c : Call} {e : Edit} (edit : c.edit? = some e) :
    c.parameter? = if e.Writable then e.pair? else none := by
  rw [parameter?, edit]
  by_cases writable : e.Writable <;> simp [Option.filter, writable]

theorem edit?_eq_restrictByRoles {c : Call} : c.edit? = some .restrictByRoles ↔
    c = restrictByRoles := by
  constructor
  · intro edit
    cases c with
    | restrictByRoles => rfl
    | _ => simp [edit?, Option.bind_eq_some_iff] at edit
  · rintro rfl
    rfl

theorem isParameter_of_edit? {c : Call} {e : Edit} (edit : c.edit? = some e)
    (clean : ∀ s ∈ c.texts, '&' ∉ s.toList) : ∀ p ∈ e.pair?, IsParameter p := by
  have decimal : ∀ n, '&' ∉ (Integer.decimal n).toList :=
    Integer.notMem_decimal (by decide) (by decide)
  cases c with
  | query clause | filter clause =>
    obtain ⟨s, word, rfl⟩ := Option.map_eq_some_iff.mp edit
    rintro p ⟨⟩
    exact ⟨by simp, clean s (by simp [texts, word])⟩
  | fields names =>
    obtain ⟨ss, words, rfl⟩ := Option.map_eq_some_iff.mp edit
    rintro p ⟨⟩
    have absent : ∀ s ∈ ss, '&' ∉ s.toList := by simpa [texts, words] using clean
    exact ⟨by simp, Text.notMem_intercalate (by decide) absent⟩
  | sort names flags =>
    obtain ⟨ss, words, rfl⟩ := Option.map_eq_some_iff.mp edit
    rintro p ⟨⟩
    have absent : ∀ s ∈ ss, '&' ∉ s.toList := by simpa [texts, words] using clean
    have absentTerms := SortOrder.notMem_terms (by decide) (by decide) absent flags.flags
    exact ⟨by simp, Text.notMem_intercalate (by decide) absentTerms⟩
  | start number | limit number =>
    obtain ⟨n, _, rfl⟩ := Option.map_eq_some_iff.mp edit
    rintro p ⟨⟩
    exact ⟨by simp, decimal n⟩
  | addFieldMapping source destination =>
    simp only [edit?, Option.bind_eq_bind, Option.bind_eq_some_iff, Option.pure_def,
      Option.some.injEq] at edit
    obtain ⟨s, _, d, _, rfl⟩ := edit
    rintro p ⟨⟩
  | addFieldMappingTable table =>
    obtain ⟨entries, _, rfl⟩ := Option.map_eq_some_iff.mp edit
    rintro p ⟨⟩
  | switchToPost | restrictByRoles =>
    cases edit
    rintro p ⟨⟩

end Call

namespace Request

/-- The parameters of a request; a body goes without any. -/
def params : Request → List (String × String)
  | get params => params.pairs
  | post _ => []

theorem mem_params_put {r : Request} {e : Edit} {p : String × String}
    (present : p ∈ (r.put e).params) : p ∈ r.params ∨ p ∈ e.pair? := by
  cases r with
  | get old =>
    have added : p ∈ old.pairs ++ e.pair?.toList ∨ p ∈ ([] : List (String × String)) := by
      cases e with
      | switchToPost => exact .inr present
      | _ => exact .inl present
    rcases added with added | none
    · simpa [params] using List.mem_append.mp added
    · cases none
  | post body =>
    cases e <;> cases present

end Request

namespace Query

theorem after_request_get {q : Query} {params : Params} (get : q.request = .get params) {c : Call}
    (different : c ≠ .switchToPost) :
    (q.after c).request = .get ⟨params.pairs ++ c.parameter?.toList⟩ := by
  rcases q.after_cases c with ⟨edit, after⟩ | ⟨e, edit, ⟨writable, after⟩ | ⟨unwritable, _, after⟩⟩
  · simp [after, reject, get, Call.parameter?, edit]
  · have unchanged : e ≠ .switchToPost := by
      rintro rfl
      exact different (Call.eq_switchToPost_of_edit? edit)
    have writable : e.Writable := by simpa [isPost, get] using writable
    rw [after, carry, get, Request.put_get_of_ne params unchanged, Call.parameter?_of_edit? edit,
      if_pos writable]
  · rw [after, get, Call.parameter?_of_edit? edit, if_neg unwritable]
    simp

/-- Without a change to a body, the parameters are those of the calls, in order. -/
theorem run_params {q : Query} {params : Params} (get : q.request = .get params)
    {calls : List Call} (absent : .switchToPost ∉ calls) :
    (q.run calls).request = .get ⟨params.pairs ++ calls.filterMap Call.parameter?⟩ := by
  induction calls generalizing q params with
  | nil => simp [run, get]
  | cons c calls inductionHypothesis =>
    have first := after_request_get get (List.ne_of_not_mem_cons absent).symm
    rw [run, List.foldl_cons, ← run,
      inductionHypothesis first (List.not_mem_of_not_mem_cons absent), List.filterMap_cons]
    cases c.parameter? <;> simp

theorem after_restrictRoles (q : Query) (c : Call) :
    (q.after c).restrictRoles = true ↔ q.restrictRoles = true ∨ c = .restrictByRoles := by
  rw [← Call.edit?_eq_restrictByRoles]
  rcases q.after_cases c with ⟨edit, after⟩ | ⟨e, edit, ⟨_, after⟩ | ⟨unwritable, _, after⟩⟩
  · simp [after, edit, reject]
  · rw [after, edit]
    cases e <;> simp [carry, restrictRolesAfter]
  · have different : e ≠ .restrictByRoles := by
      rintro rfl
      exact unwritable trivial
    simp [after, edit, different]

theorem run_restrictRoles (q : Query) (calls : List Call) :
    (q.run calls).restrictRoles = true ↔ q.restrictRoles = true ∨ .restrictByRoles ∈ calls := by
  induction calls generalizing q with
  | nil => simp [run]
  | cons c calls inductionHypothesis =>
    rw [run, List.foldl_cons, ← run, inductionHypothesis, after_restrictRoles, List.mem_cons,
      or_assoc, eq_comm (a := c)]

theorem isParameter_after {q : Query} {c : Call} (clean : ∀ s ∈ c.texts, '&' ∉ s.toList)
    (before : ∀ p ∈ q.request.params, IsParameter p) :
    ∀ p ∈ (q.after c).request.params, IsParameter p := by
  rcases q.after_cases c with ⟨_, after⟩ | ⟨e, edit, ⟨_, after⟩ | ⟨_, _, after⟩⟩
  · rw [after]
    exact before
  · rw [after]
    intro p present
    rcases Request.mem_params_put present with old | new
    · exact before p old
    · exact Call.isParameter_of_edit? edit clean p new
  · rw [after]
    exact before

theorem isParameter_run {q : Query} {calls : List Call}
    (clean : ∀ c ∈ calls, ∀ s ∈ c.texts, '&' ∉ s.toList)
    (before : ∀ p ∈ q.request.params, IsParameter p) :
    ∀ p ∈ (q.run calls).request.params, IsParameter p := by
  induction calls generalizing q with
  | nil => exact before
  | cons c calls inductionHypothesis =>
    obtain ⟨cleanFirst, cleanRest⟩ := List.forall_mem_cons.mp clean
    exact inductionHypothesis cleanRest (isParameter_after cleanFirst before)

end Query

end SolrRequest
