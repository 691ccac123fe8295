import SolrRequest.Proofs.Number.Spelling
import SolrRequest.Proofs.Number.Writable
import SolrRequest.Proofs.Text.Blank

/-!
# Integers that are read back

The decimal text of an integer is the usual one. It has no blanks, and it is read as the integer if
it does not pass the limit of digits, also between blanks.
-/

namespace SolrRequest.Integer

open Text

theorem digits_ne_nil (n : Nat) : digits n ≠ [] := by
  by_cases small : n < 10
  · rw [digits_of_lt small]
    exact List.cons_ne_nil _ _
  · rw [digits_of_le (Nat.le_of_not_lt small)]
    exact List.append_ne_nil_of_right_ne_nil _ (List.cons_ne_nil _ _)

theorem filterMap_digit?_map_asciiDigit {ds : List Nat} (small : ∀ d ∈ ds, d < 10) :
    (ds.map asciiDigit).filterMap digit? = ds := by
  have same : ∀ d ∈ ds, (digit? ∘ asciiDigit) d = some d :=
    fun d member => digit?_asciiDigit_of_lt (small d member)
  rw [List.filterMap_map, List.filterMap_congr same, List.filterMap_some]

theorem digitRun?_map_asciiDigit {ds : List Nat} (nonempty : ds ≠ []) (small : ∀ d ∈ ds, d < 10) :
    digitRun? (ds.map asciiDigit) = some ds := by
  have digits : ∀ c ∈ ds.map asciiDigit, isDigit c = true :=
    List.forall_mem_map.mpr fun d _ => isDigit_asciiDigit d
  rw [digitRun?_of_isDigit (mt List.map_eq_nil_iff.mp nonempty) digits,
    filterMap_digit?_map_asciiDigit small]

theorem decimalChars_eq (n : Int) : decimalChars n =
    if n < 0 then '-' :: (digits n.natAbs).map asciiDigit
    else (digits n.natAbs).map asciiDigit := rfl

/-- Digits have no sign in front. -/
theorem splitSign_map_asciiDigit (ds : List Nat) :
    splitSign (ds.map asciiDigit) = (false, ds.map asciiDigit) := by
  cases ds with
  | nil => rfl
  | cons d ds =>
    obtain ⟨_, noMinus, noPlus⟩ := digit_ne (isDigit_asciiDigit d)
    simp [splitSign, noMinus, noPlus]

theorem splitSign_decimalChars (n : Int) :
    splitSign (decimalChars n) = (decide (n < 0), (digits n.natAbs).map asciiDigit) := by
  rw [decimalChars_eq]
  split
  · next negative => rw [decide_eq_true negative, splitSign]
  · next nonneg => rw [decide_eq_false nonneg, splitSign_map_asciiDigit]

theorem isTrimmed_decimalChars (n : Int) : IsTrimmed (decimalChars n) := by
  have visible : ∀ c ∈ (digits n.natAbs).map asciiDigit, isBlank c = false := by
    intro c membership
    obtain ⟨d, _, rfl⟩ := List.mem_map.mp membership
    exact isBlank_asciiDigit d
  rw [decimalChars_eq]
  split
  · exact isTrimmed_of_forall (List.cons_ne_nil _ _)
      (List.forall_mem_cons.mpr ⟨by decide, visible⟩)
  · exact isTrimmed_of_forall (mt List.map_eq_nil_iff.mp (digits_ne_nil _)) visible

theorem signed_natAbs (n : Int) : signed (decide (n < 0)) n.natAbs = n := by
  unfold signed
  split
  · next negative =>
    have := of_decide_eq_true negative
    omega
  · next nonneg =>
    have := of_decide_eq_false (Bool.eq_false_iff.mpr nonneg)
    omega

theorem read_decimal (n : Int) : read (decimal n) =
    if digitLimit < (digits n.natAbs).length then .error (.tooManyDigits (digits n.natAbs).length)
    else .ok n := by
  have run := digitRun?_map_asciiDigit (digits_ne_nil n.natAbs) fun _ => lt_ten_of_mem_digits
  rw [read, decimal, String.toList_ofList, (isTrimmed_decimalChars n).trim_eq,
    splitSign_decimalChars]
  simp only [run, ofDigits_digits, signed_natAbs]

theorem read?_decimal {n : Int} (writable : Writable n) : read? (decimal n) = some n := by
  rw [read?, read_decimal, if_neg (Nat.not_lt.mpr writable)]
  rfl

theorem read?_between_blanks {n : Int} (writable : Writable n) {before after : String}
    (blankBefore : allBlank before = true) (blankAfter : allBlank after = true) :
    read? (before ++ decimal n ++ after) = some n := by
  have blanks : ∀ c ∈ before.toList ++ after.toList, isBlank c = true :=
    List.forall_mem_append.mpr
      ⟨List.all_eq_true.mp blankBefore, List.all_eq_true.mp blankAfter⟩
  have trimmed := isTrimmed_decimalChars n
  have sameTrim : trim (before ++ decimal n ++ after).toList = trim (decimal n).toList := by
    rw [decimal, String.toList_ofList, trimmed.trim_eq, String.toList_append, String.toList_append,
      String.toList_ofList, trimmed.trim_append blanks]
  rw [read?_congr sameTrim, read?_decimal writable]

/-! ## The usual text -/

theorem asciiDigit_eq_digitChar {d : Nat} (small : d < 10) : asciiDigit d = d.digitChar := by
  have digits : ∀ n : Fin 10, asciiDigit n.val = n.val.digitChar := by decide
  exact digits ⟨d, small⟩

theorem map_asciiDigit_digits (n : Nat) : (digits n).map asciiDigit = Nat.toDigits 10 n := by
  induction n using Nat.strongRecOn with
  | ind n inductionHypothesis =>
    by_cases small : n < 10
    · rw [digits_of_lt small, Nat.toDigits_of_lt_base small, List.map_singleton,
        asciiDigit_eq_digitChar small]
    · have large := Nat.le_of_not_lt small
      have last : n % 10 < 10 := Nat.mod_lt n (by decide)
      rw [digits_of_le large, Nat.toDigits_of_base_le (by decide) large, List.map_append,
        inductionHypothesis (n / 10) (by omega), List.map_singleton, asciiDigit_eq_digitChar last]

theorem decimal_eq_toString (n : Int) : decimal n = toString n := by
  rw [decimal, decimalChars_eq, map_asciiDigit_digits]
  cases n with
  | ofNat n => rfl
  | negSucc n =>
    have written : toString (Int.negSucc n) = "-" ++ (n + 1).repr := rfl
    rw [if_pos (Int.negSucc_lt_zero n), written, ← String.toList_inj, String.toList_append,
      Nat.toList_repr, String.toList_ofList]
    rfl

end SolrRequest.Integer
