import Mathlib.Tactic.FieldSimp
import SolrRequest.Proofs.Number.Nearest

/-!
# Errors of rounding

A quotient is at most half a unit away from what it is rounded to, and whatever is closer than half
a unit is what it is rounded to. Between two powers of two the unit is known. The operations on
doubles treat both signs alike.
-/

namespace SolrRequest.Double

variable {num den u scale : Nat} {x : Double}

/-! ## Half a unit -/

theorem roundHalfEven_near (num : Nat) {den : Nat} (denominator : 0 < den) :
    2 * (roundHalfEven num den * den) ≤ 2 * num + den ∧
      2 * num ≤ 2 * (roundHalfEven num den * den) + den := by
  have whole := Nat.div_add_mod num den
  have rest := Nat.mod_lt num denominator
  rw [Nat.mul_comm den] at whole
  unfold roundHalfEven
  dsimp only
  split
  · omega
  · split
    · rw [Nat.add_mul, Nat.one_mul]
      omega
    · rcases Nat.mod_two_eq_zero_or_one (num / den) with even | odd
      · rw [even, Nat.add_zero]
        omega
      · rw [odd, Nat.add_mul, Nat.one_mul]
        omega

theorem roundHalfEven_eq (denominator : 0 < den) (notAbove : 2 * (u * den) < 2 * num + den)
    (notBelow : 2 * num < 2 * (u * den) + den) : roundHalfEven num den = u := by
  obtain ⟨low, high⟩ := roundHalfEven_near num denominator
  rcases Nat.lt_trichotomy (roundHalfEven num den) u with less | same | more
  · have := Nat.mul_le_mul_right den less
    rw [Nat.succ_mul] at this
    omega
  · exact same
  · have := Nat.mul_le_mul_right den more
    rw [Nat.succ_mul] at this
    omega

theorem roundHalfEven_mul (positive : 0 < scale) (num den : Nat) :
    roundHalfEven (num * scale) (den * scale) = roundHalfEven num den := by
  have below : 2 * (num % den * scale) < den * scale ↔ 2 * (num % den) < den := by
    rw [← Nat.mul_assoc, Nat.mul_lt_mul_right positive]
  have above : den * scale < 2 * (num % den * scale) ↔ den < 2 * (num % den) := by
    rw [← Nat.mul_assoc, Nat.mul_lt_mul_right positive]
  simp only [roundHalfEven, Nat.mul_div_mul_right _ _ positive, Nat.mul_mod_mul_right, below, above]

theorem abs_roundHalfEven_sub_le (num : Nat) {den : Nat} (denominator : 0 < den) :
    |(roundHalfEven num den : ℚ) - num / den| ≤ 1 / 2 := by
  have positive : (0 : ℚ) < den := by exact_mod_cast denominator
  obtain ⟨low, high⟩ := roundHalfEven_near num denominator
  have low : 2 * ((roundHalfEven num den : ℚ) * den) ≤ 2 * num + den := by exact_mod_cast low
  have high : (2 * num : ℚ) ≤ 2 * (roundHalfEven num den * den) + den := by exact_mod_cast high
  have above : (roundHalfEven num den : ℚ) ≤ num / den + 1 / 2 := by
    rw [div_add_div _ _ positive.ne' two_ne_zero, le_div_iff₀ (by positivity)]
    linarith
  have below : (num : ℚ) / den ≤ roundHalfEven num den + 1 / 2 := by
    rw [div_le_iff₀ positive]
    linarith
  rw [abs_le]
  constructor <;> linarith

theorem abs_round_sub_le (x : Double) : |(x.round : ℚ) - x.value| ≤ 1 / 2 := by
  have denominator : 0 < x.ratio.2 := Nat.pow_pos two_pos
  have near := abs_roundHalfEven_sub_le x.ratio.1.natAbs denominator
  rw [value_eq_ratio, round]
  split
  · next negative =>
    have flipped : (x.ratio.1 : ℚ) = -(x.ratio.1.natAbs : ℚ) := by
      rw [Nat.cast_natAbs, abs_of_neg negative]
      push_cast
      ring
    rw [flipped, neg_div, abs_sub_comm]
    push_cast
    rw [sub_neg_eq_add, neg_add_eq_sub]
    exact near
  · next notNegative =>
    have same : (x.ratio.1 : ℚ) = (x.ratio.1.natAbs : ℚ) := by
      rw [Nat.cast_natAbs, abs_of_nonneg (not_lt.mp notNegative)]
    rw [same]
    exact near

/-! ## The unit -/

theorem abs_magnitude_sub_le (numerator : 0 < num) (denominator : 0 < den) :
    |magnitude num den - num / den| ≤ 2 ^ unitExponent num den / 2 := by
  set k := unitExponent num den with exponent
  have unit : (0 : ℚ) < 2 ^ k := by positivity
  have near := abs_roundHalfEven_sub_le (num * Nat.pow 2 (-k).toNat)
    (show 0 < den * Nat.pow 2 k.toNat from Nat.mul_pos denominator (Nat.pow_pos two_pos))
  have scaled : ((num * Nat.pow 2 (-k).toNat : Nat) : ℚ) / (den * Nat.pow 2 k.toNat : Nat) =
      num / den / 2 ^ k := by
    rw [two_zpow_eq]
    push_cast [Nat.pow_eq]
    field_simp
  rw [scaled] at near
  have error : magnitude num den - num / den =
      (roundHalfEven (num * Nat.pow 2 (-k).toNat) (den * Nat.pow 2 k.toNat) - num / den / 2 ^ k) *
        2 ^ k := by
    rw [magnitude_eq numerator, units, ← exponent]
    field_simp
  rw [error, abs_mul, abs_of_pos unit]
  linarith [mul_le_mul_of_nonneg_right near unit.le]

/-- The order of a quotient between two powers of two. -/
theorem binaryOrder_eq (numerator : 0 < num) (denominator : 0 < den) {k : Int}
    (low : (2 : ℚ) ^ k ≤ num / den) (high : (num : ℚ) / den < 2 ^ (k + 1)) :
    binaryOrder num den = k := by
  obtain ⟨notAbove, notBelow⟩ := binaryOrder_bounds numerator denominator
  have less := notAbove.trans_lt high
  have more := low.trans_lt notBelow
  rw [zpow_lt_zpow_iff_right₀ one_lt_two] at less more
  omega

/-- A quotient whose units number between two powers of two is rounded in these units. -/
theorem nearestNat_eq_of_bounds {places : Nat} (denominator : 0 < den)
    (low : 2 ^ 52 * den ≤ num * 2 ^ places) (high : num * 2 ^ places < 2 ^ 53 * den)
    (normal : places ≤ 1074) (notFull : roundHalfEven (num * 2 ^ places) den ≠ 2 ^ 53) :
    nearestNat num den = (roundHalfEven (num * 2 ^ places) den, -(places : Int)) := by
  have numerator : 0 < num := by
    rcases num.eq_zero_or_pos with rfl | positive
    · omega
    · exact positive
  have exponents : (2 : ℚ) ^ (52 - places : Int) = (2 ^ 52 : Nat) * 2 ^ (-places : Int) ∧
      (2 : ℚ) ^ (52 - places + 1 : Int) = (2 ^ 53 : Nat) * 2 ^ (-places : Int) := by
    have next : (52 - places + 1 : Int) = 53 + -places := by ring
    rw [next, sub_eq_add_neg, zpow_add₀ two_ne_zero, zpow_add₀ two_ne_zero]
    norm_num
  have order : binaryOrder num den = 52 - places := by
    apply binaryOrder_eq numerator denominator
    · rw [exponents.1, mul_zpow_le_div_iff denominator]
      simpa [Nat.pow_eq] using low
    · rw [exponents.2, ← not_le, mul_zpow_le_div_iff denominator]
      simpa [Nat.pow_eq] using high
  have exponent : unitExponent num den = -places := by
    rw [unitExponent, order, leastExponent]
    omega
  have rounded : units num den = roundHalfEven (num * 2 ^ places) den := by
    rw [units, exponent]
    simp [Nat.pow_eq]
  rw [nearestNat_eq numerator, rounded, if_neg notFull, exponent]

/-! ## Both signs -/

instance : Neg Double :=
  ⟨fun x => ⟨-x.mantissa, x.exponent⟩⟩

theorem nearest_eq (n : Int) (den : Nat) : nearest n den =
    ⟨if n < 0 then -((nearestNat n.natAbs den).1 : Int) else (nearestNat n.natAbs den).1,
      (nearestNat n.natAbs den).2⟩ := rfl

theorem nearest_natCast (n den : Nat) :
    nearest n den = ⟨(nearestNat n den).1, (nearestNat n den).2⟩ := by
  rw [nearest_eq, if_neg (Int.natCast_nonneg n).not_gt, Int.natAbs_natCast]

theorem nearest_neg (n : Int) (den : Nat) : nearest (-n) den = -nearest n den := by
  rw [nearest_eq, nearest_eq, Int.natAbs_neg]
  rcases Int.lt_trichotomy n 0 with negative | rfl | positive
  · rw [if_neg (by omega), if_pos negative]
    exact congrArg (Double.mk · _) (Int.neg_neg _).symm
  · rfl
  · rw [if_pos (by omega), if_neg (by omega)]
    rfl

theorem ratio_neg (x : Double) : (-x).ratio = (-x.ratio.1, x.ratio.2) :=
  congrArg (·, x.ratio.2) (Int.neg_mul x.mantissa _)

theorem truncate_neg (x : Double) : (-x).truncate = -x.truncate := by
  rw [truncate, ratio_neg]
  exact Int.neg_tdiv _ _

theorem fraction_neg (x : Double) : (-x).fraction = -x.fraction := by
  rw [fraction, ratio_neg]
  exact congrArg (Double.mk · x.exponent) (Int.neg_tmod _ _)

theorem mulNat_neg (x : Double) (n : Nat) : (-x).mulNat n = -x.mulNat n := by
  rw [mulNat, ratio_neg, Int.neg_mul]
  exact nearest_neg _ _

theorem round_neg (x : Double) : (-x).round = -x.round := by
  rw [round, round, ratio_neg, Int.natAbs_neg]
  rcases Int.lt_trichotomy x.ratio.1 0 with negative | zero | positive
  · rw [if_neg (by omega), if_pos negative, Int.neg_neg]
  · have nothing : roundHalfEven 0 x.ratio.2 = 0 := by simp [roundHalfEven]
    simp [zero, nothing]
  · rw [if_pos (by omega), if_neg (by omega)]

/-! ## Natural numbers over powers of two -/

theorem ratio_natCast (m places : Nat) :
    (⟨m, -(places : Int)⟩ : Double).ratio = ((m : Int), 2 ^ places) := by
  have noFactor : (-(places : Int)).toNat = 0 := by omega
  have denominator : (- -(places : Int)).toNat = places := by omega
  rw [ratio, noFactor, denominator]
  exact congrArg (·, _) (Int.mul_one _)

theorem value_natCast (m places : Nat) :
    (⟨m, -(places : Int)⟩ : Double).value = m / 2 ^ places := by
  rw [value_eq_ratio, ratio_natCast]
  push_cast
  rfl

theorem truncate_natCast (m places : Nat) :
    (⟨m, -(places : Int)⟩ : Double).truncate = (m / 2 ^ places : Nat) := by
  rw [truncate, ratio_natCast]
  exact (Int.ofNat_tdiv _ _).symm

theorem fraction_natCast (m places : Nat) :
    (⟨m, -(places : Int)⟩ : Double).fraction = ⟨(m % 2 ^ places : Nat), -places⟩ := by
  rw [fraction, ratio_natCast]
  exact congrArg (Double.mk · _) (Int.ofNat_tmod _ _).symm

theorem mulNat_natCast (m places n : Nat) :
    (⟨m, -(places : Int)⟩ : Double).mulNat n = nearest (m * n : Nat) (2 ^ places) := by
  rw [mulNat, ratio_natCast, Int.natCast_mul]

theorem round_nonneg {x : Double} (nonneg : 0 ≤ x.mantissa) : 0 ≤ x.round := by
  have numerator : 0 ≤ x.ratio.1 := Int.mul_nonneg nonneg (Int.natCast_nonneg _)
  rw [round, if_neg numerator.not_gt]
  exact Int.natCast_nonneg _

theorem mantissa_fraction_nonneg {x : Double} (nonneg : 0 ≤ x.mantissa) : 0 ≤ x.fraction.mantissa :=
  Int.tmod_nonneg _ (Int.mul_nonneg nonneg (Int.natCast_nonneg _))

theorem mantissa_nearest_nonneg {n : Int} (nonneg : 0 ≤ n) (den : Nat) :
    0 ≤ (nearest n den).mantissa := by
  rw [nearest_eq]
  dsimp only
  rw [if_neg nonneg.not_gt]
  exact Int.natCast_nonneg _

theorem mantissa_mulNat_nonneg {x : Double} (nonneg : 0 ≤ x.mantissa) (n : Nat) :
    0 ≤ (x.mulNat n).mantissa := by
  have numerator : 0 ≤ x.ratio.1 := Int.mul_nonneg nonneg (Int.natCast_nonneg _)
  exact mantissa_nearest_nonneg (Int.mul_nonneg numerator (Int.natCast_nonneg n)) _

theorem le_truncate {x : Double} {c : Nat} (nonneg : 0 ≤ x.mantissa) (reached : (c : ℚ) ≤ x.value) :
    (c : Int) ≤ x.truncate := by
  have denominator : 0 < x.ratio.2 := Nat.pow_pos two_pos
  have positive : (0 : ℚ) < x.ratio.2 := by exact_mod_cast denominator
  have numerator : 0 ≤ x.ratio.1 := Int.mul_nonneg nonneg (Int.natCast_nonneg _)
  rw [value_eq_ratio, le_div_iff₀ positive] at reached
  rw [truncate, Int.tdiv_eq_ediv_of_nonneg numerator]
  exact Int.le_ediv_of_mul_le (by exact_mod_cast denominator) (by exact_mod_cast reached)

/-- Below a million of units, rounding to a double plays nearly no part in rounding to an
integer. -/
theorem abs_round_nearest_sub_le {num den : Nat} (denominator : 0 < den)
    (few : num < 2 ^ 20 * den) :
    |((nearest num den).round : ℚ) - num / den| ≤ 1 / 2 + 1 / 2 ^ 34 := by
  have rounded := abs_round_sub_le (nearest num den)
  have isMagnitude : (nearest num den).value = magnitude num den := by
    rw [value_nearest, if_neg (Int.natCast_nonneg _).not_gt, Int.natAbs_natCast]
  have near : |magnitude num den - num / den| ≤ 1 / 2 ^ 34 := by
    rcases num.eq_zero_or_pos with rfl | numerator
    · simp [magnitude, nearestNat]
    have positive : (0 : ℚ) < den := by exact_mod_cast denominator
    have small : (num : ℚ) / den < 2 ^ (20 : Int) := by
      rw [div_lt_iff₀ positive]
      exact_mod_cast few
    have order := (binaryOrder_bounds numerator denominator).1.trans_lt small
    rw [zpow_lt_zpow_iff_right₀ one_lt_two] at order
    have exponent : unitExponent num den ≤ -33 := by
      rw [unitExponent, leastExponent]
      omega
    have unit : (2 : ℚ) ^ unitExponent num den ≤ 2 ^ (-33 : Int) :=
      zpow_le_zpow_right₀ one_le_two exponent
    calc |magnitude num den - num / den|
        ≤ 2 ^ unitExponent num den / 2 := abs_magnitude_sub_le numerator denominator
      _ ≤ 2 ^ (-33 : Int) / 2 := div_le_div_of_nonneg_right unit two_pos.le
      _ = 1 / 2 ^ 34 := by norm_num
  rw [isMagnitude] at rounded
  linarith [abs_sub_le ((nearest num den).round : ℚ) (magnitude num den) (num / den)]

/-- A whole number of units between two powers of two, of which the last places are cut off. -/
theorem truncate_nearest {num few places : Nat} (low : 2 ^ 52 * 2 ^ few ≤ num)
    (high : num < 2 ^ 53 * 2 ^ few) (normal : places ≤ 1074)
    (notFull : roundHalfEven num (2 ^ few) ≠ 2 ^ 53) :
    (nearest num (2 ^ (few + places))).truncate =
      (roundHalfEven num (2 ^ few) / 2 ^ places : Nat) := by
  have unit : 0 < 2 ^ places := Nat.pow_pos two_pos
  have scaled := roundHalfEven_mul unit num (2 ^ few)
  have split : 2 ^ (few + places) = 2 ^ few * 2 ^ places := Nat.pow_add 2 few places
  have atLeast : 2 ^ 52 * 2 ^ (few + places) ≤ num * 2 ^ places := by
    rw [split, ← Nat.mul_assoc]
    exact Nat.mul_le_mul_right _ low
  have below : num * 2 ^ places < 2 ^ 53 * 2 ^ (few + places) := by
    rw [split, ← Nat.mul_assoc]
    exact Nat.mul_lt_mul_of_pos_right high unit
  rw [nearest_natCast, nearestNat_eq_of_bounds (Nat.pow_pos two_pos) atLeast below normal
    (by rw [split, scaled]; exact notFull), split, scaled, truncate_natCast]

end SolrRequest.Double
