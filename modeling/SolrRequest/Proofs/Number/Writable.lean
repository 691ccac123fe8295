import Mathlib.Data.Nat.Digits.Lemmas
import SolrRequest.Proofs.Number.Digits
import SolrRequest.Value

/-!
# Integers that can be written

An integer can be written if it has no more digits than the limit. Whatever is read from a text is
within the limit, and so is the integer part of a float, since mantissa and exponent are bounded.
Only an integer that was given as a number can pass the limit.
-/

namespace SolrRequest

open Text

namespace Integer

def Writable (n : Int) : Prop :=
  (digits n.natAbs).length ≤ digitLimit

instance (n : Int) : Decidable (Writable n) :=
  inferInstanceAs (Decidable (_ ≤ _))

theorem write_of_writable {n : Int} (writable : Writable n) : write n = .ok (decimal n) := by
  rw [write, if_neg (Nat.not_lt.mpr writable)]

theorem writable_of_lt {n : Int} (bounded : n.natAbs < 10 ^ digitLimit) : Writable n :=
  length_digits_le (by decide) bounded

theorem writable_iff {n : Int} : Writable n ↔ n.natAbs < 10 ^ digitLimit := by
  constructor
  · intro writable
    calc n.natAbs = ofDigits 10 (digits n.natAbs) := (ofDigits_digits _).symm
      _ < 10 ^ (digits n.natAbs).length := ofDigits_lt_pow fun _ => lt_ten_of_mem_digits
      _ ≤ 10 ^ digitLimit := Nat.pow_le_pow_right (by decide) writable
  · exact writable_of_lt

theorem natAbs_signed (negative : Bool) (n : Nat) : (signed negative n).natAbs = n := by
  cases negative <;> simp [signed]

theorem lt_ten_of_mem_digitRun? {s : List Char} {ds : List Nat} (run : digitRun? s = some ds) :
    ∀ d ∈ ds, d < 10 := by
  fun_induction digitRun? s generalizing ds with
  | case1 => cases run
  | case2 c =>
    obtain ⟨d, value, rfl⟩ := Option.map_eq_some_iff.mp run
    simpa using digit?_lt value
  | case3 c r inductionHypothesis =>
    simp only [Option.bind_eq_bind, Option.bind_eq_some_iff, Option.pure_def,
      Option.some.injEq] at run
    obtain ⟨d, value, rest, restRun, rfl⟩ := run
    exact List.forall_mem_cons.mpr ⟨digit?_lt value, inductionHypothesis restRun⟩
  | case4 c r _ _ inductionHypothesis =>
    simp only [Option.bind_eq_bind, Option.bind_eq_some_iff, Option.pure_def,
      Option.some.injEq] at run
    obtain ⟨d, value, rest, restRun, rfl⟩ := run
    exact List.forall_mem_cons.mpr ⟨digit?_lt value, inductionHypothesis restRun⟩

theorem writable_of_read? {s : String} {n : Int} (result : read? s = some n) : Writable n := by
  unfold read? read at result
  generalize splitSign (trim s.toList) = signBody at result
  obtain ⟨negative, body⟩ := signBody
  dsimp only at result
  cases run : digitRun? body with
  | none => simp [run, Except.toOption] at result
  | some ds =>
    rw [run] at result
    dsimp only at result
    split at result
    · simp [Except.toOption] at result
    · next short =>
      have value : signed negative (ofDigits 10 ds) = n := by
        simpa [Except.toOption] using result
      apply writable_of_lt
      rw [← value, natAbs_signed]
      calc ofDigits 10 ds < 10 ^ ds.length := ofDigits_lt_pow (lt_ten_of_mem_digitRun? run)
        _ ≤ 10 ^ digitLimit := Nat.pow_le_pow_right (by decide) (Nat.le_of_not_lt short)

end Integer

namespace FloatClass

/-- Mantissa and exponent of a finite float stay within those of double precision. -/
theorem bounds_of_ofBits {bits m : Nat} {negative : Bool} {e : Int}
    (finite : ofBits bits = .finite negative m e) : m < 2 ^ 53 ∧ e ≤ 971 := by
  have biasedBound : bits / Nat.pow 2 52 % Nat.pow 2 11 < 2048 := Nat.mod_lt _ (by decide)
  have fractionBound : bits % Nat.pow 2 52 < 4503599627370496 := Nat.mod_lt _ (by decide)
  unfold ofBits at finite
  dsimp only at finite
  generalize bits / Nat.pow 2 52 % Nat.pow 2 11 = biased at *
  generalize bits % Nat.pow 2 52 = fraction at *
  have mantissaUnit : Nat.pow 2 52 = 4503599627370496 := by decide
  split at finite
  · split at finite <;> cases finite
  · split at finite
    · cases finite
      exact ⟨by omega, by decide⟩
    · cases finite
      exact ⟨by omega, by omega⟩

end FloatClass

namespace Double

theorem writable_truncate {x : Float} {d : Double} (finite : ofFloat? x = some d) :
    Integer.Writable d.truncate := by
  unfold ofFloat? at finite
  split at finite
  · next negative m e parts =>
    obtain ⟨mantissaBound, exponentBound⟩ := FloatClass.bounds_of_ofBits parts
    have magnitude : d.mantissa.natAbs = m := by
      cases finite
      cases negative <;> simp
    have exponent : d.exponent = e := by
      cases finite
      rfl
    apply Integer.writable_of_lt
    calc d.truncate.natAbs ≤ d.ratio.1.natAbs := by
          rw [truncate, Int.natAbs_tdiv]
          exact Nat.div_le_self _ _
      _ = m * 2 ^ e.toNat := by
          rw [ratio, exponent, Int.natAbs_mul, magnitude]
          rfl
      _ < 2 ^ 53 * 2 ^ e.toNat := Nat.mul_lt_mul_of_pos_right mantissaBound (by positivity)
      _ = 2 ^ (53 + e.toNat) := (Nat.pow_add _ _ _).symm
      _ ≤ 10 ^ (53 + e.toNat) := Nat.pow_le_pow_left (by decide) _
      _ ≤ 10 ^ Integer.digitLimit :=
          Nat.pow_le_pow_right (by decide) (by unfold Integer.digitLimit; omega)
  · cases finite

end Double

namespace Value

/-- An integer that is given as a number is within the limit of digits. -/
def NumberWritable : Value → Prop
  | int n => Integer.Writable n
  | _ => True

theorem writable_of_integer? {v : Value} {n : Int} (result : v.integer? = some n)
    (given : v.NumberWritable) : Integer.Writable n := by
  cases v with
  | int m =>
    cases result
    exact given
  | float x =>
    cases finite : Double.ofFloat? x with
    | none => simp [integer?, finite] at result
    | some d =>
      have value : d.truncate = n := by
        simp only [integer?, finite] at result
        split at result
        · exact Option.some.inj result
        · cases result
      rw [← value]
      exact Double.writable_truncate finite
  | text s => exact Integer.writable_of_read? result
  | field f => exact Integer.writable_of_read? result
  | _ => cases result

end Value

end SolrRequest
