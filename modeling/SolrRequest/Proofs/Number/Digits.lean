import Mathlib.Data.Nat.Digits.Lemmas
import SolrRequest.Number.Integer

/-!
# Digits of a number

The digits that are written are those of the positional system, most significant first. What holds
of these carries over: the digits read back as the number, and a bound on the number is a bound on
their count. Zeros in front change nothing.
-/

namespace SolrRequest.Integer

open Text

theorem digits_of_lt {n : Nat} (small : n < 10) : digits n = [n] := by
  rw [digits, digitsBefore, if_pos small]

theorem digitsBefore_eq (n : Nat) (tail : List Nat) :
    digitsBefore n tail = digits n ++ tail := by
  induction n using Nat.strongRecOn generalizing tail with
  | ind n inductionHypothesis =>
    by_cases small : n < 10
    · rw [digits_of_lt small, digitsBefore, if_pos small]
      rfl
    · have smaller : n / 10 < n := by omega
      rw [digits, digitsBefore, if_neg small, inductionHypothesis _ smaller]
      conv_rhs => rw [digitsBefore, if_neg small, inductionHypothesis _ smaller]
      simp

theorem digits_of_le {n : Nat} (large : 10 ≤ n) : digits n = digits (n / 10) ++ [n % 10] := by
  rw [digits, digitsBefore, if_neg (by omega), digitsBefore_eq]

theorem digits_eq_reverse {n : Nat} (nonzero : n ≠ 0) :
    digits n = (Nat.digits 10 n).reverse := by
  induction n using Nat.strongRecOn with
  | ind n inductionHypothesis =>
    rw [Nat.digits_def' (by decide) (by omega)]
    by_cases small : n < 10
    · rw [digits_of_lt small, Nat.div_eq_of_lt small, Nat.mod_eq_of_lt small]
      rfl
    · rw [digits_of_le (by omega), inductionHypothesis _ (by omega) (by omega)]
      simp

theorem lt_ten_of_mem_digits {n d : Nat} (membership : d ∈ digits n) : d < 10 := by
  by_cases zero : n = 0
  · subst n
    rw [digits_of_lt (by decide), List.mem_singleton] at membership
    omega
  · rw [digits_eq_reverse zero, List.mem_reverse] at membership
    exact Nat.digits_lt_base (by decide) membership

theorem length_digits_le {n k : Nat} (positive : 0 < k) (bounded : n < 10 ^ k) :
    (digits n).length ≤ k := by
  by_cases zero : n = 0
  · subst n
    rw [digits_of_lt (by decide)]
    exact positive
  · rw [digits_eq_reverse zero, List.length_reverse]
    exact (Nat.digits_length_le_iff (by decide) n).mpr bounded

theorem ofDigits_eq_reverse (base : Nat) (ds : List Nat) :
    ofDigits base ds = Nat.ofDigits base ds.reverse := by
  rw [ofDigits, Nat.ofDigits_eq_foldr, List.foldr_reverse]
  congr 1
  funext n d
  exact Nat.add_comm _ _

theorem ofDigits_digits (n : Nat) : ofDigits 10 (digits n) = n := by
  by_cases zero : n = 0
  · subst n
    rw [digits_of_lt (by decide)]
    rfl
  · rw [ofDigits_eq_reverse, digits_eq_reverse zero, List.reverse_reverse, Nat.ofDigits_digits]

theorem ofDigits_lt_pow {ds : List Nat} (small : ∀ d ∈ ds, d < 10) :
    ofDigits 10 ds < 10 ^ ds.length := by
  rw [ofDigits_eq_reverse, ← List.length_reverse]
  exact Nat.ofDigits_lt_base_pow_length (by decide) fun d membership =>
    small d (List.mem_reverse.mp membership)

theorem ofDigits_zeros_append (k : Nat) (ds : List Nat) :
    ofDigits 10 (List.replicate k 0 ++ ds) = ofDigits 10 ds := by
  rw [ofDigits_eq_reverse, List.reverse_append, List.reverse_replicate,
    Nat.ofDigits_append_replicate_zero, ofDigits_eq_reverse]

/-! ## Digits as characters -/

theorem digit?_asciiDigit_of_lt {d : Nat} (small : d < 10) : digit? (asciiDigit d) = some d := by
  rw [digit?_asciiDigit, Nat.mod_eq_of_lt small]

/-- The digits of a padded text, the zeros in front included. -/
def paddedDigits (width n : Nat) : List Nat :=
  List.replicate (width - (digits n).length) 0 ++ digits n

theorem toList_padded (width n : Nat) :
    (padded width n).toList = (paddedDigits width n).map asciiDigit := by
  simp [padded, paddedDigits, asciiDigit]

theorem lt_ten_of_mem_paddedDigits {width n d : Nat} (membership : d ∈ paddedDigits width n) :
    d < 10 := by
  rcases List.mem_append.mp membership with zero | digit
  · have := List.eq_of_mem_replicate zero
    omega
  · exact lt_ten_of_mem_digits digit

theorem ofDigits_paddedDigits (width n : Nat) : ofDigits 10 (paddedDigits width n) = n := by
  rw [paddedDigits, ofDigits_zeros_append, ofDigits_digits]

theorem paddedDigits_two {n : Nat} (bounded : n < 100) :
    paddedDigits 2 n = [n / 10, n % 10] := by
  by_cases small : n < 10
  · rw [paddedDigits, digits_of_lt small, Nat.div_eq_of_lt small, Nat.mod_eq_of_lt small]
    rfl
  · rw [paddedDigits, digits_of_le (Nat.le_of_not_lt small), digits_of_lt (by omega)]
    rfl

theorem length_paddedDigits (width n : Nat) :
    (paddedDigits width n).length = max width (digits n).length := by
  simp only [paddedDigits, List.length_append, List.length_replicate]
  omega

/-! ## Order -/

theorem ofDigits_cons (d : Nat) (ds : List Nat) :
    ofDigits 10 (d :: ds) = d * 10 ^ ds.length + ofDigits 10 ds := by
  rw [ofDigits_eq_reverse, List.reverse_cons, Nat.ofDigits_append, Nat.ofDigits_singleton,
    List.length_reverse, ← ofDigits_eq_reverse, Nat.mul_comm, Nat.add_comm]

theorem asciiDigit_lt {d e : Nat} (less : d < e) (small : e < 10) :
    asciiDigit d < asciiDigit e := by
  have digits : ∀ m n : Fin 10, m < n → Char.ofNat (0x30 + m.val) < Char.ofNat (0x30 + n.val) := by
    decide
  rw [asciiDigit, asciiDigit, Nat.mod_eq_of_lt small, Nat.mod_eq_of_lt (Nat.lt_trans less small)]
  exact digits ⟨d, Nat.lt_trans less small⟩ ⟨e, small⟩ less

/-- The first digit that differs decides, as the digits behind it make up less than one of it. -/
theorem map_asciiDigit_append_lt {ds es : List Nat} (lengths : ds.length = es.length)
    (small : ∀ d ∈ ds, d < 10) (smallOther : ∀ e ∈ es, e < 10)
    (less : ofDigits 10 ds < ofDigits 10 es) (s t : List Char) :
    ds.map asciiDigit ++ s < es.map asciiDigit ++ t := by
  induction ds generalizing es with
  | nil =>
    obtain rfl := List.length_eq_zero_iff.mp lengths.symm
    exact absurd less (Nat.lt_irrefl _)
  | cons d ds inductionHypothesis =>
    obtain ⟨e, es, rfl⟩ := List.exists_cons_of_length_eq_add_one lengths.symm
    obtain ⟨_, smallRest⟩ := List.forall_mem_cons.mp small
    obtain ⟨smallDigit, smallOtherRest⟩ := List.forall_mem_cons.mp smallOther
    have lengthsRest : ds.length = es.length := Nat.succ.inj lengths
    have bound := ofDigits_lt_pow smallOtherRest
    rw [ofDigits_cons, ofDigits_cons, lengthsRest] at less
    apply List.cons_lt_cons_iff.mpr
    rcases Nat.lt_trichotomy d e with smaller | rfl | greater
    · exact .inl (asciiDigit_lt smaller smallDigit)
    · refine .inr ⟨rfl, inductionHypothesis lengthsRest smallRest smallOtherRest ?_⟩
      exact Nat.lt_of_add_lt_add_left less
    · have further : (e + 1) * 10 ^ es.length ≤ d * 10 ^ es.length :=
        Nat.mul_le_mul_right _ greater
      rw [Nat.succ_mul] at further
      omega

/-- Numbers of one width compare as their texts do, whatever follows these; equal ones leave it to
what follows. -/
theorem padded_append_lt {width m n : Nat} {p : Prop} {s t : List Char} (positive : 0 < width)
    (fits : n < 10 ^ width) (less : m < n ∨ m = n ∧ p) (following : p → s < t) :
    (padded width m).toList ++ s < (padded width n).toList ++ t := by
  rcases less with less | ⟨rfl, later⟩
  · have lengths : (paddedDigits width m).length = (paddedDigits width n).length := by
      rw [length_paddedDigits, length_paddedDigits,
        Nat.max_eq_left (length_digits_le positive fits),
        Nat.max_eq_left (length_digits_le positive (Nat.lt_trans less fits))]
    rw [toList_padded, toList_padded]
    apply map_asciiDigit_append_lt lengths
    · exact fun d => lt_ten_of_mem_paddedDigits
    · exact fun d => lt_ten_of_mem_paddedDigits
    · rwa [ofDigits_paddedDigits, ofDigits_paddedDigits]
  · exact List.Lex.append_left _ (following later) _

end SolrRequest.Integer
