import SolrRequest.Proofs.Query.Step

/-!
# Calls that are not accepted

Such a call is recorded and changes nothing else, and an accepted call is not recorded. So the calls
of a run that are not accepted can be left out: the query is the same but for the record, and the
record is these calls in order.
-/

namespace SolrRequest.Query

theorem rejected_of_call {q r : Query} {c : Call} (accepted : c.accepts = true)
    (writable : c.Writable) (result : q.call c = .ok r) : r.rejected = q.rejected := by
  obtain ⟨e, edit⟩ := Call.exists_edit? accepted
  rw [q.call_eq_carry edit writable] at result
  cases result
  rfl

theorem call_eq_ok_after (q : Query) {c : Call} (writable : c.Writable) :
    q.call c = .ok (q.after c) := by
  cases edit : c.edit? with
  | some e =>
    have result := q.call_eq_carry edit writable
    rw [after_eq_of_call result, result]
  | none =>
    have result := q.call_eq_reject (c.edit?_eq_none_iff.mp edit)
    rw [after_eq_of_call result, result]

theorem after_eq_reject (q : Query) {c : Call} (refused : c.accepts = false) :
    q.after c = { q with rejected := q.rejected ++ [c.rejection] } := by
  rw [after_eq_of_call (q.call_eq_reject refused), reject, c.rejection_eq]

theorem edits_filter_accepts (calls : List Call) :
    Call.edits (calls.filter Call.accepts) = Call.edits calls := by
  rw [Call.edits, List.filterMap_filter]
  apply List.filterMap_congr
  intro c _
  split
  · rfl
  · next refused => exact (c.edit?_eq_none_iff.mpr (by simpa using refused)).symm

theorem rejections_filter_accepts (calls : List Call) :
    Call.rejections (calls.filter Call.accepts) = [] := by
  simp [Call.rejections, List.filter_filter]

theorem run_rejected (q : Query) {calls : List Call} (writable : ∀ c ∈ calls, c.Writable) :
    (q.run calls).rejected = q.rejected ++ Call.rejections calls := by
  rw [q.run_eq_carryAll writable]

/-- Leaving out the calls that are not accepted leaves out what they recorded and nothing else. -/
theorem run_filter_accepts (q : Query) {calls : List Call} (writable : ∀ c ∈ calls, c.Writable) :
    q.run (calls.filter Call.accepts) = { q.run calls with rejected := q.rejected } := by
  have writableAccepted : ∀ c ∈ calls.filter Call.accepts, c.Writable := fun c membership =>
    writable c (List.mem_of_mem_filter membership)
  rw [q.run_eq_carryAll writable, q.run_eq_carryAll writableAccepted, edits_filter_accepts,
    rejections_filter_accepts, List.append_nil]

/-- At any point of a run, a call that is accepted is not recorded and any other call is recorded
and does nothing else, which goes for a table with a single bad entry. The accepted calls alone
lead to the same query with an empty record, and the record is the other calls in order. -/
theorem run_rejects (baseUrl : Option String) (endpoint : Endpoint) (calls : List Call)
    (writable : ∀ c ∈ calls, c.Writable) :
    (∀ before c after, calls = before ++ c :: after →
      let q := (new baseUrl endpoint).run before
      q.call c = .ok (q.after c) ∧
        (c.accepts = true → (q.after c).rejected = q.rejected) ∧
        (c.accepts = false →
          q.after c = { q with rejected := q.rejected ++ [c.rejection] })) ∧
    (∀ entries e, e ∈ entries → e.1.isWord = false ∨ e.2.isDestination = false →
      let q := (new baseUrl endpoint).run calls
      q.after (.addFieldMappingTable (.dict entries)) =
        { q with rejected := q.rejected ++ [⟨"add_field_mapping_table", .dict entries⟩] }) ∧
    (new baseUrl endpoint).run (calls.filter Call.accepts) =
      { (new baseUrl endpoint).run calls with rejected := [] } ∧
    ((new baseUrl endpoint).run calls).rejected =
      (calls.filter fun c => !c.accepts).map Call.rejection := by
  refine ⟨?_, ?_, ?_, ?_⟩
  · rintro before c after rfl q
    have writableCall : c.Writable := writable c (by simp)
    have result := q.call_eq_ok_after writableCall
    exact ⟨result, fun accepted => rejected_of_call accepted writableCall result,
      fun refused => q.after_eq_reject refused⟩
  · intro entries e present bad q
    exact q.after_eq_reject (Value.isMapping_eq_false present bad)
  · exact run_filter_accepts _ writable
  · rw [run_rejected _ writable]
    rfl

/-- Bad arguments of every kind between accepted calls, among them a table with one blank key. -/
theorem run_rejects_table :
    let table : Value := .dict [(.text "c", .text "d"), (.text " ", .text "e")]
    let calls : List Call := [.start (.int 3), .start (.text "three"), .switchToPost,
      .query (.text " "), .query (.text "f"), .filter (.int 1), .fields (.text "title"),
      .sort (.list [.text ""]) (.bool true), .limit (.bool true),
      .addFieldMapping (.text "a") (.list []), .addFieldMapping (.text "a") (.text "b"),
      .addFieldMappingTable table]
    (∀ c ∈ calls, c.Writable) ∧
      ((new none .standard).run calls).rejected = [⟨"start", .text "three"⟩, ⟨"query", .text " "⟩,
        ⟨"filter", .int 1⟩, ⟨"fields", .text "title"⟩, ⟨"sort", .list [.text ""]⟩,
        ⟨"limit", .bool true⟩, ⟨"add_field_mapping", .tuple [.text "a", .list []]⟩,
        ⟨"add_field_mapping_table", table⟩] := by
  intro table calls
  have writable : ∀ c ∈ calls, c.Writable := by
    simp [calls, Call.Writable, Value.NumberWritable, Integer.Writable, Integer.digits_of_lt,
      Integer.digitLimit]
  have ⟨_, _, _, record⟩ := run_rejects none .standard calls writable
  refine ⟨writable, ?_⟩
  rw [record]
  rfl

end SolrRequest.Query
