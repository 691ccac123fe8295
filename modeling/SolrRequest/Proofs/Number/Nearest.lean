import Mathlib.Algebra.Order.Field.Power
import Mathlib.Data.Nat.Cast.Order.Field
import Mathlib.Data.Rat.Cast.Order
import Mathlib.Tactic.Linarith
import Mathlib.Tactic.NormNum
import Mathlib.Tactic.Positivity
import Mathlib.Tactic.Ring
import SolrRequest.Number.Double

/-!
# Rounding to a double

A quotient is rounded in units of the last place, whose size follows from the power of two below the
quotient. Rounding keeps the order of quotients, also where the size of the unit changes, and a
large double is a whole number. So the integers that are rounded beyond the doubles start at one of
them.
-/

namespace SolrRequest.Double

def value (x : Double) : ℚ :=
  x.mantissa * 2 ^ x.exponent

theorem two_zpow_eq (k : Int) : (2 : ℚ) ^ k = 2 ^ k.toNat / 2 ^ (-k).toNat := by
  rcases Int.eq_nat_or_neg k with ⟨n, rfl | rfl⟩
  · simp
  · simp

theorem value_eq_ratio (x : Double) : x.value = x.ratio.1 / x.ratio.2 := by
  rw [value, two_zpow_eq, ratio, mul_div_assoc']
  push_cast [Nat.pow_eq]
  rfl

/-! ## The power of two below a quotient -/

variable {num more den : Nat}

theorem mul_zpow_le_div_iff (denominator : 0 < den) (count : Nat) (k : Int) :
    (count : ℚ) * 2 ^ k ≤ num / den ↔
      count * (den * Nat.pow 2 k.toNat) ≤ num * Nat.pow 2 (-k).toNat := by
  have positive : (0 : ℚ) < den := by exact_mod_cast denominator
  rw [two_zpow_eq, mul_div_assoc', div_le_div_iff₀ (by positivity) positive, mul_assoc,
    mul_comm (2 ^ k.toNat) (den : ℚ)]
  simp only [Nat.pow_eq]
  exact_mod_cast Iff.rfl

theorem zpow_le_div_iff (denominator : 0 < den) (k : Int) :
    (2 : ℚ) ^ k ≤ num / den ↔ den * Nat.pow 2 k.toNat ≤ num * Nat.pow 2 (-k).toNat := by
  simpa using mul_zpow_le_div_iff denominator 1 k

theorem binaryOrder_bounds (numerator : 0 < num) (denominator : 0 < den) :
    (2 : ℚ) ^ binaryOrder num den ≤ num / den ∧
      (num : ℚ) / den < 2 ^ (binaryOrder num den + 1) := by
  have numLow : (2 : ℚ) ^ num.log2 ≤ num := by exact_mod_cast Nat.log2_self_le numerator.ne'
  have numHigh : (num : ℚ) < 2 ^ (num.log2 + 1) := by exact_mod_cast Nat.lt_log2_self
  have denLow : (2 : ℚ) ^ den.log2 ≤ den := by exact_mod_cast Nat.log2_self_le denominator.ne'
  have denHigh : (den : ℚ) < 2 ^ (den.log2 + 1) := by exact_mod_cast Nat.lt_log2_self
  have above : (num : ℚ) / den < 2 ^ ((num.log2 : Int) - den.log2 + 1) := by
    rw [sub_add_eq_add_sub, zpow_sub₀ two_ne_zero, zpow_natCast]
    exact div_lt_div₀ (by exact_mod_cast numHigh) denLow (by positivity) (by positivity)
  have below : (2 : ℚ) ^ ((num.log2 : Int) - den.log2 - 1) ≤ num / den := by
    rw [sub_sub, zpow_sub₀ two_ne_zero, zpow_natCast]
    exact div_le_div₀ (by positivity) numLow (by positivity) (by exact_mod_cast denHigh.le)
  rw [binaryOrder]
  split
  · next fits => exact ⟨(zpow_le_div_iff denominator _).mpr fits, above⟩
  · next tooLarge =>
    rw [← zpow_le_div_iff denominator, not_le] at tooLarge
    exact ⟨below, by rwa [sub_add_cancel]⟩

theorem binaryOrder_mono (numerator : 0 < num) (denominator : 0 < den) (order : num ≤ more) :
    binaryOrder num den ≤ binaryOrder more den := by
  have low := (binaryOrder_bounds numerator denominator).1
  have high := (binaryOrder_bounds (numerator.trans_le order) denominator).2
  have quotients : (num : ℚ) / den ≤ more / den := by gcongr
  have powers := low.trans_lt (quotients.trans_lt high)
  rw [zpow_lt_zpow_iff_right₀ one_lt_two] at powers
  omega

/-! ## Units of the last place -/

theorem roundHalfEven_mono (order : num ≤ more) :
    roundHalfEven num den ≤ roundHalfEven more den := by
  rcases (Nat.div_le_div_right (c := den) order).lt_or_eq with less | same
  · have := roundHalfEven_bounds num den
    have := roundHalfEven_bounds more den
    omega
  · have rests : num % den ≤ more % den := by
      have := Nat.div_add_mod num den
      have := Nat.div_add_mod more den
      rw [same] at *
      omega
    unfold roundHalfEven
    dsimp only
    rw [same]
    split_ifs <;> omega

/-- The exponent of the unit in which a quotient is rounded. -/
def unitExponent (num den : Nat) : Int :=
  max (binaryOrder num den - 52) leastExponent

/-- The quotient, rounded to a number of units. -/
def units (num den : Nat) : Nat :=
  roundHalfEven (num * Nat.pow 2 (-unitExponent num den).toNat)
    (den * Nat.pow 2 (unitExponent num den).toNat)

theorem units_le (numerator : 0 < num) (denominator : 0 < den) : units num den ≤ 2 ^ 53 := by
  have high := (binaryOrder_bounds numerator denominator).2
  have exponents : binaryOrder num den + 1 ≤ 53 + unitExponent num den := by
    have := le_max_left (binaryOrder num den - 52) leastExponent
    rw [unitExponent]
    omega
  have fewer : (num : ℚ) / den < (2 ^ 53 : Nat) * 2 ^ unitExponent num den := by
    refine high.trans_le ((zpow_le_zpow_right₀ one_le_two exponents).trans_eq ?_)
    rw [zpow_add₀ two_ne_zero]
    norm_num
  rw [← not_le, mul_zpow_le_div_iff denominator, not_le] at fewer
  rw [Nat.mul_comm (2 ^ 53)] at fewer
  exact (roundHalfEven_bounds _ _).2.trans (Nat.div_lt_of_lt_mul fewer)

theorem le_units (numerator : 0 < num) (denominator : 0 < den)
    (normal : leastExponent < unitExponent num den) : 2 ^ 52 ≤ units num den := by
  have exponent : unitExponent num den = binaryOrder num den - 52 := by
    rw [unitExponent] at normal ⊢
    omega
  have low := (binaryOrder_bounds numerator denominator).1
  have enough : ((2 ^ 52 : Nat) : ℚ) * 2 ^ unitExponent num den ≤ num / den := by
    refine Eq.trans_le ?_ low
    rw [exponent, zpow_sub₀ two_ne_zero]
    norm_num
    ring
  rw [mul_zpow_le_div_iff denominator] at enough
  have unit : 0 < den * Nat.pow 2 (unitExponent num den).toNat :=
    Nat.mul_pos denominator (Nat.pow_pos two_pos)
  exact ((Nat.le_div_iff_mul_le unit).mpr enough).trans (roundHalfEven_bounds _ _).1

/-- Units that fill up to the next power of two are told as half as many larger ones. -/
theorem nearestNat_eq (numerator : 0 < num) (den : Nat) : nearestNat num den =
    if units num den = 2 ^ 53 then (2 ^ 52, unitExponent num den + 1)
    else (units num den, unitExponent num den) := by
  rw [nearestNat, if_neg numerator.ne']
  rfl

/-- The value of the double nearest to a quotient of natural numbers. -/
def magnitude (num den : Nat) : ℚ :=
  (nearestNat num den).1 * 2 ^ (nearestNat num den).2

theorem magnitude_nonneg (num den : Nat) : 0 ≤ magnitude num den := by
  unfold magnitude
  positivity

theorem magnitude_eq (numerator : 0 < num) (den : Nat) :
    magnitude num den = units num den * 2 ^ unitExponent num den := by
  rw [magnitude, nearestNat_eq numerator]
  split
  · next full =>
    rw [full, zpow_add₀ two_ne_zero]
    norm_num
    ring
  · rfl

theorem magnitude_mono (denominator : 0 < den) (order : num ≤ more) :
    magnitude num den ≤ magnitude more den := by
  rcases num.eq_zero_or_pos with rfl | numerator
  · have zero : magnitude 0 den = 0 := by simp [magnitude, nearestNat]
    exact zero.trans_le (magnitude_nonneg more den)
  have moreNumerator := numerator.trans_le order
  rw [magnitude_eq numerator, magnitude_eq moreNumerator]
  have exponents : unitExponent num den ≤ unitExponent more den :=
    max_le_max_right _ (sub_le_sub_right (binaryOrder_mono numerator denominator order) 52)
  rcases exponents.lt_or_eq with larger | same
  · have normal : leastExponent < unitExponent more den := (le_max_right _ _).trans_lt larger
    have many : (2 ^ 52 : ℚ) ≤ units more den := by
      exact_mod_cast le_units moreNumerator denominator normal
    have few : (units num den : ℚ) ≤ 2 ^ 53 := by
      exact_mod_cast units_le numerator denominator
    calc (units num den : ℚ) * 2 ^ unitExponent num den
        ≤ 2 ^ 53 * 2 ^ unitExponent num den := by gcongr
      _ = 2 ^ 52 * 2 ^ (unitExponent num den + 1) := by
        rw [zpow_add₀ two_ne_zero]
        ring
      _ ≤ 2 ^ 52 * 2 ^ unitExponent more den := by
        gcongr
        · exact one_le_two
        · omega
      _ ≤ units more den * 2 ^ unitExponent more den := by gcongr
  · have counts : units num den ≤ units more den := by
      rw [units, units, same]
      exact roundHalfEven_mono (Nat.mul_le_mul_right _ order)
    rw [same]
    gcongr

theorem value_nearest (n : Int) (den : Nat) : (nearest n den).value =
    if n < 0 then -magnitude n.natAbs den else magnitude n.natAbs den := by
  change ((if n < 0 then -((nearestNat n.natAbs den).1 : Int) else (nearestNat n.natAbs den).1 :
    Int) : ℚ) * 2 ^ (nearestNat n.natAbs den).2 = _
  split
  · rw [magnitude]
    push_cast
    ring
  · rfl

theorem abs_value_nearest (n : Int) (den : Nat) :
    |(nearest n den).value| = magnitude n.natAbs den := by
  have nonneg := magnitude_nonneg n.natAbs den
  rw [value_nearest]
  split
  · rw [abs_neg, abs_of_nonneg nonneg]
  · exact abs_of_nonneg nonneg

/-- Rounding keeps the order of quotients. -/
theorem value_nearest_mono {first second : Int} (denominator : 0 < den) (order : first ≤ second) :
    (nearest first den).value ≤ (nearest second den).value := by
  rw [value_nearest, value_nearest]
  have firstNonneg := magnitude_nonneg first.natAbs den
  have secondNonneg := magnitude_nonneg second.natAbs den
  split_ifs with firstNegative secondNegative secondNegative
  · exact neg_le_neg (magnitude_mono denominator (by omega))
  · linarith
  · omega
  · exact magnitude_mono denominator (by omega)

/-! ## Large doubles -/

theorem nearestNat_lt (denominator : 0 < den) (num : Nat) : (nearestNat num den).1 < 2 ^ 53 := by
  rcases num.eq_zero_or_pos with rfl | numerator
  · simp [nearestNat]
  · have := units_le numerator denominator
    rw [nearestNat_eq numerator]
    split <;> omega

theorem natAbs_mantissa_nearest_lt (denominator : 0 < den) (n : Int) :
    (nearest n den).mantissa.natAbs < 2 ^ 53 := by
  have significand := nearestNat_lt denominator n.natAbs
  change (if n < 0 then -((nearestNat n.natAbs den).1 : Int) else (nearestNat n.natAbs den).1 :
    Int).natAbs < 2 ^ 53
  split <;> omega

/-- A double of this size has no places for a fraction. -/
theorem exponent_nonneg_of_large {x : Double} (significand : x.mantissa.natAbs < 2 ^ 53)
    (large : 2 ^ 53 ≤ |x.value|) : 0 ≤ x.exponent := by
  by_contra negative
  have mantissa : |(x.mantissa : ℚ)| < 2 ^ 53 := by
    rw [← Int.cast_abs, Int.abs_eq_natAbs]
    exact_mod_cast significand
  have unit : (2 : ℚ) ^ x.exponent ≤ 1 := zpow_le_one_of_nonpos₀ one_le_two (by omega)
  have below : |x.value| ≤ |(x.mantissa : ℚ)| := by
    rw [value, abs_mul, abs_zpow, abs_two]
    exact mul_le_of_le_one_right (abs_nonneg _) unit
  exact (below.trans_lt mantissa).not_ge large

theorem ratio_of_exponent_nonneg {x : Double} (whole : 0 ≤ x.exponent) : x.ratio.2 = 1 := by
  have noPlaces : (-x.exponent).toNat = 0 := by omega
  rw [ratio, noPlaces]

theorem truncate_of_exponent_nonneg {x : Double} (whole : 0 ≤ x.exponent) :
    (x.truncate : ℚ) = x.value := by
  rw [value_eq_ratio, truncate, ratio_of_exponent_nonneg whole]
  simp

theorem mantissa_fraction_of_exponent_nonneg {x : Double} (whole : 0 ≤ x.exponent) :
    x.fraction.mantissa = 0 := by
  rw [fraction, ratio_of_exponent_nonneg whole]
  simp

theorem abs_truncate_le (x : Double) : |(x.truncate : ℚ)| ≤ |x.value| := by
  have quotient : x.truncate.natAbs = x.ratio.1.natAbs / x.ratio.2 := by
    rw [truncate, Int.natAbs_tdiv, Int.natAbs_natCast]
    rfl
  rw [value_eq_ratio, abs_div, Nat.abs_cast, ← Int.cast_abs, ← Int.cast_abs, Int.abs_eq_natAbs,
    Int.abs_eq_natAbs, quotient, Int.cast_natCast, Int.cast_natCast]
  exact Nat.cast_div_le

/-! ## Overflow -/

theorem pow_le_abs_value_iff {x : Double} {k : Nat} :
    2 ^ k ≤ |x.value| ↔ Nat.pow 2 k * x.ratio.2 ≤ x.ratio.1.natAbs := by
  have positive : (0 : ℚ) < x.ratio.2 := Nat.cast_pos.mpr (Nat.pow_pos two_pos)
  rw [value_eq_ratio, abs_div, Nat.abs_cast, ← Int.cast_abs, Int.abs_eq_natAbs, Int.cast_natCast,
    le_div_iff₀ positive]
  exact_mod_cast Iff.rfl

theorem overflows_iff {x : Double} : x.overflows = true ↔ 2 ^ 1024 ≤ |x.value| := by
  rw [overflows, decide_eq_true_eq]
  generalize 1024 = k
  exact pow_le_abs_value_iff.symm

/-- The least magnitude of an integer that is rounded beyond the doubles. It is half a unit of the
last place below the next power of two, and a half goes to the even mantissa. -/
def leastOverflow : Nat := 2 ^ 1024 - 2 ^ 970

theorem magnitude_leastOverflow : magnitude leastOverflow 1 = 2 ^ 1024 := by
  have rounded : nearestNat leastOverflow 1 = (2 ^ 52, 972) := by decide +kernel
  rw [magnitude, rounded, Nat.cast_pow, Nat.cast_ofNat, zpow_ofNat, ← pow_add]

theorem magnitude_below_leastOverflow : magnitude (leastOverflow - 1) 1 < 2 ^ 1024 := by
  have rounded : nearestNat (leastOverflow - 1) 1 = (2 ^ 53 - 1, 971) := by decide +kernel
  have significand : ((2 ^ 53 - 1 : Nat) : ℚ) < 2 ^ 53 := by norm_num
  calc magnitude (leastOverflow - 1) 1
      = ((2 ^ 53 - 1 : Nat) : ℚ) * 2 ^ (971 : Int) := by rw [magnitude, rounded]
    _ < 2 ^ 53 * 2 ^ (971 : Int) := by gcongr
    _ = 2 ^ 1024 := by rw [zpow_ofNat, ← pow_add]

theorem overflows_nearest_iff (n : Int) :
    (nearest n 1).overflows = true ↔ leastOverflow ≤ n.natAbs := by
  have mono : Monotone fun num => magnitude num 1 := fun _ _ => magnitude_mono one_pos
  rw [overflows_iff, abs_value_nearest]
  constructor
  · intro overflow
    have less := magnitude_below_leastOverflow.trans_le overflow
    have order := mono.reflect_lt less
    omega
  · intro order
    exact magnitude_leastOverflow.ge.trans (magnitude_mono one_pos order)

end SolrRequest.Double
