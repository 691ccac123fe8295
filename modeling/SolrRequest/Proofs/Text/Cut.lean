import SolrRequest.Number.Integer

/-!
# Cutting texts

A text is cut at the first or at the last place of a character. Texts joined without that character,
and decimal texts, do not have it.
-/

namespace SolrRequest

namespace Text

variable {c : Char}

/-- What stands before the first `c`, and what follows it if it is there. -/
def cut (c : Char) : List Char → List Char × Option (List Char)
  | [] => ([], none)
  | d :: s => if d = c then ([], some s) else (d :: (cut c s).1, (cut c s).2)

theorem cut_append_cons {s : List Char} (absent : c ∉ s) (t : List Char) :
    cut c (s ++ c :: t) = (s, some t) := by
  induction s with
  | nil => exact if_pos rfl
  | cons d s inductionHypothesis =>
    have different : d ≠ c := (List.ne_of_not_mem_cons absent).symm
    rw [List.cons_append, cut, if_neg different,
      inductionHypothesis (List.not_mem_of_not_mem_cons absent)]

theorem cut_of_notMem {s : List Char} (absent : c ∉ s) : cut c s = (s, none) := by
  induction s with
  | nil => rfl
  | cons d s inductionHypothesis =>
    have different : d ≠ c := (List.ne_of_not_mem_cons absent).symm
    rw [cut, if_neg different, inductionHypothesis (List.not_mem_of_not_mem_cons absent)]

/-- What stands before the last `c`, and what follows it. -/
def cutLast (c : Char) (s : List Char) : Option (List Char × List Char) :=
  let (behind, before) := cut c s.reverse
  before.map fun t => (t.reverse, behind.reverse)

theorem cutLast_append_cons {t : List Char} (absent : c ∉ t) (s : List Char) :
    cutLast c (s ++ c :: t) = some (s, t) := by
  have reversed : (s ++ c :: t).reverse = t.reverse ++ c :: s.reverse := by simp
  have absentReversed : c ∉ t.reverse := mt List.mem_reverse.mp absent
  rw [cutLast, reversed, cut_append_cons absentReversed]
  simp

theorem notMem_intercalate {separator : String} {ss : List String}
    (outside : c ∉ separator.toList) (absent : ∀ s ∈ ss, c ∉ s.toList) :
    c ∉ (separator.intercalate ss).toList := by
  induction ss with
  | nil => simp
  | cons s ss inductionHypothesis =>
    obtain ⟨absentFirst, absentRest⟩ := List.forall_mem_cons.mp absent
    have rest := inductionHypothesis absentRest
    cases ss with
    | nil => simpa using absentFirst
    | cons t ss =>
      rw [String.intercalate_cons_cons, String.toList_append, String.toList_append]
      simp only [List.mem_append, not_or]
      exact ⟨⟨absentFirst, outside⟩, rest⟩

end Text

namespace Integer

theorem notMem_decimal {c : Char} (noDigit : ∀ d : Fin 10, Text.asciiDigit d ≠ c)
    (noMinus : '-' ≠ c) (n : Int) : c ∉ (decimal n).toList := by
  have absent : c ∉ (digits n.natAbs).map Text.asciiDigit := by
    intro membership
    obtain ⟨d, _, isDigit⟩ := List.mem_map.mp membership
    apply noDigit ⟨d % 10, Nat.mod_lt d (by decide)⟩
    rw [← isDigit, Text.asciiDigit, Text.asciiDigit, Nat.mod_mod]
  rw [decimal, String.toList_ofList, decimalChars]
  split
  · exact List.not_mem_cons_of_ne_of_not_mem noMinus.symm absent
  · exact absent

end Integer

end SolrRequest
