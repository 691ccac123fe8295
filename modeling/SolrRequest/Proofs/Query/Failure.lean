import SolrRequest.Proofs.Query.Step

/-!
# Calls that fail

A call fails only for an integer with more digits than a parameter may have, and then it says so and
leaves the query as it is. A body takes integers of any size.
-/

namespace SolrRequest

namespace Value

theorem exists_of_not_numberWritable {v : Value} (unwritable : ¬ v.NumberWritable) :
    ∃ n : Int, v = int n ∧ 10 ^ Integer.digitLimit ≤ n.natAbs := by
  cases v with
  | int n => exact ⟨n, rfl, Nat.le_of_not_lt (mt Integer.writable_iff.mpr unwritable)⟩
  | _ => exact absurd trivial unwritable

end Value

namespace Call

/-- The call has a number with too many digits for a parameter. -/
def IsOversized (c : Call) : Prop :=
  ∃ n : Int, 10 ^ Integer.digitLimit ≤ n.natAbs ∧ (c = start (.int n) ∨ c = limit (.int n))

theorem isOversized_of_not_writable {c : Call} (unwritable : ¬ c.Writable) : c.IsOversized := by
  cases c with
  | start offset =>
    obtain ⟨n, rfl, oversized⟩ := Value.exists_of_not_numberWritable unwritable
    exact ⟨n, oversized, .inl rfl⟩
  | limit count =>
    obtain ⟨n, rfl, oversized⟩ := Value.exists_of_not_numberWritable unwritable
    exact ⟨n, oversized, .inr rfl⟩
  | _ => exact absurd trivial unwritable

theorem IsOversized.exists_edit? {c : Call} (oversized : c.IsOversized) :
    ∃ e, c.edit? = some e ∧ ¬ e.Writable := by
  obtain ⟨n, large, rfl | rfl⟩ := oversized
  · exact ⟨.start n, rfl, mt Integer.writable_iff.mp (Nat.not_lt.mpr large)⟩
  · exact ⟨.limit n, rfl, mt Integer.writable_iff.mp (Nat.not_lt.mpr large)⟩

end Call

namespace Query

theorem call_eq_perform (q : Query) {c : Call} {e : Edit} (edit : c.edit? = some e) :
    q.call c = q.perform e := by
  rw [call, edit]

theorem call_eq_error_iff (q : Query) (c : Call) (fault : Integer.Fault) :
    q.call c = .error fault ↔ fault = .tooLong ∧ q.isPost = false ∧ c.IsOversized := by
  constructor
  · intro failure
    cases edit : c.edit? with
    | none =>
      rw [q.call_eq_reject (c.edit?_eq_none_iff.mp edit)] at failure
      cases failure
    | some e =>
      rw [q.call_eq_perform edit] at failure
      by_cases writable : e.Writable
      · rw [q.perform_eq_carry writable] at failure
        cases failure
      · cases post : q.isPost with
        | true =>
          rw [perform_eq_carry_of_isPost post] at failure
          cases failure
        | false =>
          rw [perform_eq_error post writable] at failure
          cases failure
          exact ⟨rfl, rfl, Call.isOversized_of_not_writable
            (mt (Call.writable_of_edit? edit) writable)⟩
  · rintro ⟨rfl, get, oversized⟩
    obtain ⟨e, edit, unwritable⟩ := oversized.exists_edit?
    rw [q.call_eq_perform edit]
    exact perform_eq_error get unwritable

theorem exists_call_eq_ok_iff (q : Query) (c : Call) :
    (∃ r, q.call c = .ok r) ↔ ∀ fault, q.call c ≠ .error fault := by
  cases q.call c with
  | ok r => simp
  | error fault => simp

/-- A call returns a query unless parameters are sent and its number has too many digits for one.
There it says that the number is too long, and the query stays as it was. -/
theorem call_returns_iff (q : Query) (c : Call) :
    ((∃ r, q.call c = .ok r) ↔
      ¬(q.isPost = false ∧ ∃ n : Int, 10 ^ Integer.digitLimit ≤ n.natAbs ∧
        (c = .start (.int n) ∨ c = .limit (.int n)))) ∧
      ((∃ r, q.call c = .ok r) ∨ q.call c = .error .tooLong ∧ q.after c = q) := by
  constructor
  · rw [exists_call_eq_ok_iff]
    constructor
    · rintro returns ⟨get, oversized⟩
      exact returns .tooLong ((q.call_eq_error_iff c .tooLong).mpr ⟨rfl, get, oversized⟩)
    · intro fits fault failure
      exact fits ((q.call_eq_error_iff c fault).mp failure).2
  · cases result : q.call c with
    | ok r => exact .inl ⟨r, rfl⟩
    | error fault =>
      obtain ⟨rfl, _⟩ := (q.call_eq_error_iff c fault).mp result
      refine .inr ⟨rfl, ?_⟩
      rw [after, result]
      rfl

/-- The smallest number that is too long, on a new query. -/
theorem call_fails_of_long_offset :
    (new none .standard).call (.start (.int (10 ^ Integer.digitLimit : Nat))) =
      .error .tooLong := by
  rw [call_eq_error_iff]
  exact ⟨rfl, rfl, _, (Int.natAbs_natCast _).ge, .inl rfl⟩

end Query

end SolrRequest
