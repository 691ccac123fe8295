import SolrRequest.Text.Blank
import SolrRequest.Text.Digit

/-!
# Texts without blanks at their ends

What is cut from a text are the blanks at its ends, and nothing of a text that starts and ends with
something else.
-/

namespace SolrRequest.Text

theorem isBlank_eq_false_of_digit? {c : Char} {d : Nat} (digit : digit? c = some d) :
    isBlank c = false := by
  have digits : ∀ z ∈ zeros, ∀ n : Fin 10, isBlank (Char.ofNat (z + n.val)) = false := by
    decide +kernel
  obtain ⟨z, isZero, within⟩ := List.exists_of_findSome?_eq_some digit
  split at within
  · next bounds =>
    have visible := digits z isZero ⟨c.toNat - z, by omega⟩
    rwa [Nat.add_sub_cancel' bounds.1, Char.ofNat_toNat] at visible
  · cases within

theorem isBlank_asciiDigit (d : Nat) : isBlank (asciiDigit d) = false :=
  isBlank_eq_false_of_digit? (digit?_asciiDigit d)

/-- Around what is left of a text there were blanks only. -/
theorem exists_eq_append_trim (s : List Char) : ∃ before after, s = before ++ trim s ++ after ∧
    ∀ c ∈ before ++ after, isBlank c = true := by
  let rest := s.dropWhile isBlank
  refine ⟨s.takeWhile isBlank, (rest.reverse.takeWhile isBlank).reverse, ?_, ?_⟩
  · have split : rest = trim s ++ (rest.reverse.takeWhile isBlank).reverse := by
      rw [trim, ← List.reverse_append, List.takeWhile_append_dropWhile, List.reverse_reverse]
    rw [List.append_assoc, ← split]
    exact List.takeWhile_append_dropWhile.symm
  · intro c member
    rcases List.mem_append.mp member with first | last
    · exact List.all_eq_true.mp List.all_takeWhile c first
    · exact List.all_eq_true.mp List.all_takeWhile c (List.mem_reverse.mp last)

/-- A text whose first and last characters are not blank. -/
def IsTrimmed (s : List Char) : Prop :=
  (∃ c ∈ s.head?, isBlank c = false) ∧ ∃ c ∈ s.getLast?, isBlank c = false

theorem isTrimmed_of_forall {s : List Char} (nonempty : s ≠ [])
    (visible : ∀ c ∈ s, isBlank c = false) : IsTrimmed s :=
  ⟨⟨s.head nonempty, List.head?_eq_some_head nonempty, visible _ (List.head_mem nonempty)⟩,
    ⟨s.getLast nonempty, List.getLast?_eq_some_getLast nonempty,
      visible _ (List.getLast_mem nonempty)⟩⟩

namespace IsTrimmed

variable {s t : List Char}

/-- Whatever stands in the middle, the ends are those of the outer texts. -/
theorem append (first : IsTrimmed s) (middle : List Char) (last : IsTrimmed t) :
    IsTrimmed (s ++ middle ++ t) := by
  obtain ⟨⟨c, head, visible⟩, _⟩ := first
  obtain ⟨_, d, getLast, visibleLast⟩ := last
  refine ⟨⟨c, ?_, visible⟩, ⟨d, ?_, visibleLast⟩⟩
  · rw [Option.mem_def] at head
    simp [List.head?_append, head]
  · rw [Option.mem_def] at getLast
    simp [List.getLast?_append, getLast]

theorem dropWhile_eq (visible : ∃ c ∈ s.head?, isBlank c = false) : s.dropWhile isBlank = s := by
  obtain ⟨c, head, visible⟩ := visible
  cases s with
  | nil => rfl
  | cons d s =>
    cases head
    rw [List.dropWhile_cons, if_neg (by simp [visible])]

theorem trim_append (trimmed : IsTrimmed s) {before after : List Char}
    (blank : ∀ c ∈ before ++ after, isBlank c = true) : trim (before ++ s ++ after) = s := by
  obtain ⟨⟨first, head, visible⟩, ⟨last, getLast, visibleLast⟩⟩ := trimmed
  rw [List.forall_mem_append] at blank
  have headAppend : first ∈ (s ++ after).head? := by
    rw [Option.mem_def] at head ⊢
    simp [List.head?_append, head]
  have blankReversed : ∀ c ∈ after.reverse, isBlank c = true :=
    fun c member => blank.2 c (List.mem_reverse.mp member)
  rw [← List.head?_reverse] at getLast
  rw [trim, List.append_assoc, List.dropWhile_append_of_pos blank.1,
    dropWhile_eq ⟨first, headAppend, visible⟩, List.reverse_append,
    List.dropWhile_append_of_pos blankReversed, dropWhile_eq ⟨last, getLast, visibleLast⟩,
    List.reverse_reverse]

theorem trim_eq (trimmed : IsTrimmed s) : trim s = s :=
  calc
    trim s = trim ([] ++ s ++ []) := by rw [List.nil_append, List.append_nil]
    _ = s := trimmed.trim_append (List.forall_mem_nil _)

theorem strip_eq (trimmed : IsTrimmed s) : strip (String.ofList s) = String.ofList s := by
  rw [strip, String.toList_ofList, trimmed.trim_eq]

theorem allBlank_eq_false (trimmed : IsTrimmed s) : allBlank (String.ofList s) = false := by
  obtain ⟨⟨c, head, visible⟩, _⟩ := trimmed
  rw [allBlank, String.toList_ofList, List.all_eq_false]
  exact ⟨c, List.mem_of_mem_head? head, by simp [visible]⟩

end IsTrimmed

end SolrRequest.Text
