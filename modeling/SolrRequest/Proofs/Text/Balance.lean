import Mathlib.Data.List.Infix

/-!
# Balanced parentheses

Every parenthesis that closes has one before it that opens, and none is left open. This is kept when
such texts are put one after the other or in parentheses.
-/

namespace SolrRequest.Text

/-- No beginning of the text closes more parentheses than it opens, and the whole text closes as
many as it opens. -/
structure IsBalanced (s : List Char) : Prop where
  opened : ∀ t, t <+: s → t.count ')' ≤ t.count '('
  closed : s.count '(' = s.count ')'

instance (s : List Char) : Decidable (IsBalanced s) :=
  decidable_of_iff ((∀ t ∈ s.inits, t.count ')' ≤ t.count '(') ∧ s.count '(' = s.count ')')
    ⟨fun ⟨opened, closed⟩ => ⟨fun t start => opened t ((List.mem_inits t s).mpr start), closed⟩,
      fun ⟨opened, closed⟩ => ⟨fun t start => opened t ((List.mem_inits t s).mp start), closed⟩⟩

/-- The first parenthesis that opens is closed by the last one that closes: what stands between them
is balanced by itself. -/
def IsEnclosed (s : List Char) : Prop :=
  ∃ before inner after, s = before ++ '(' :: inner ++ ')' :: after ∧
    '(' ∉ before ∧ ')' ∉ after ∧ IsBalanced inner

namespace IsBalanced

variable {s t : List Char}

theorem nil : IsBalanced [] := by decide

theorem append (first : IsBalanced s) (second : IsBalanced t) : IsBalanced (s ++ t) where
  opened u start := by
    -- A beginning ends in the first text, or goes on from its balance into the second one.
    rcases List.prefix_or_prefix_of_prefix start (List.prefix_append s t) with inFirst | ⟨v, rfl⟩
    · exact first.opened u inFirst
    · have inSecond := second.opened v ((List.prefix_append_right_inj s).mp start)
      rw [List.count_append, List.count_append, first.closed]
      exact Nat.add_le_add_left inSecond _
  closed := by rw [List.count_append, List.count_append, first.closed, second.closed]

theorem nest (inner : IsBalanced s) : IsBalanced ('(' :: s ++ [')']) where
  opened u start := by
    rcases List.prefix_concat_iff.mp start with rfl | unclosed
    · simp [inner.closed]
    · rcases List.prefix_cons_iff.mp unclosed with rfl | ⟨v, rfl, inside⟩
      · exact Nat.le_refl 0
      · rw [List.count_cons_self, List.count_cons_of_ne (by decide)]
        exact Nat.le_succ_of_le (inner.opened v inside)
  closed := by simp [inner.closed]

theorem isEnclosed_nest (inner : IsBalanced s) : IsEnclosed ('(' :: s ++ [')']) :=
  ⟨[], s, [], rfl, List.not_mem_nil, List.not_mem_nil, inner⟩

theorem intercalate {separator : String} {ss : List String}
    (between : IsBalanced separator.toList) (each : ∀ s ∈ ss, IsBalanced s.toList) :
    IsBalanced (separator.intercalate ss).toList := by
  induction ss with
  | nil => exact nil
  | cons s ss inductionHypothesis =>
    obtain ⟨first, others⟩ := List.forall_mem_cons.mp each
    cases ss with
    | nil => simpa using first
    | cons t ss =>
      rw [String.intercalate_cons_cons, String.toList_append, String.toList_append]
      exact (first.append between).append (inductionHypothesis others)

end IsBalanced

end SolrRequest.Text
