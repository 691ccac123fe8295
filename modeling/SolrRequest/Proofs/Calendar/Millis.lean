import SolrRequest.Proofs.Calendar.Epoch
import SolrRequest.Proofs.Calendar.WallClock
import SolrRequest.Proofs.Number.Rounding

/-!
# Milliseconds that are told again

Milliseconds become seconds as a double, these become whole microseconds, and the milliseconds are
told as a thousand times the seconds again. For few places the microseconds are not a thousand times
the milliseconds, but their seconds are always the same double. What is lost is lost at its ends: a
thousand times a double that was rounded down may fall short of the milliseconds.
-/

namespace SolrRequest

open Double

namespace DateTime

/-! ## The microseconds -/

def roundedMicros (s : Double) : Int :=
  s.truncate * 1000000 + (s.fraction.mulNat 1000000).round

theorem splitSeconds_total (s : Double) :
    (splitSeconds s).1 * 1000000 + (splitSeconds s).2 = roundedMicros s := by
  rw [splitSeconds, roundedMicros]
  split_ifs <;> omega

theorem roundedMicros_neg (s : Double) : roundedMicros (-s) = -roundedMicros s := by
  rw [roundedMicros, truncate_neg, fraction_neg, mulNat_neg, round_neg, roundedMicros]
  omega

theorem roundedMicros_natCast (m places : Nat) : roundedMicros ⟨m, -(places : Int)⟩ =
    (m / 2 ^ places : Nat) * 1000000 +
      (nearest (m % 2 ^ places * 1000000 : Nat) (2 ^ places)).round := by
  rw [roundedMicros, truncate_natCast, fraction_natCast, mulNat_natCast]

theorem mul_le_roundedMicros {s : Double} {c : Nat} (nonneg : 0 ≤ s.mantissa)
    (reached : (c : ℚ) ≤ s.value) : (c * 1000000 : Int) ≤ roundedMicros s := by
  have whole := le_truncate nonneg reached
  have rest : 0 ≤ (s.fraction.mulNat 1000000).round :=
    round_nonneg (mantissa_mulNat_nonneg (mantissa_fraction_nonneg nonneg) _)
  rw [roundedMicros]
  omega

/-- The microseconds are the nearest to the seconds, or nearly so. -/
theorem abs_roundedMicros_sub_le (m places : Nat) :
    |(roundedMicros ⟨m, -(places : Int)⟩ : ℚ) - 1000000 * (m / 2 ^ places)| ≤
      1 / 2 + 1 / 2 ^ 34 := by
  have unit : 0 < 2 ^ places := Nat.pow_pos two_pos
  have positive : (0 : ℚ) < 2 ^ places := by positivity
  have rest := Nat.mod_lt m unit
  have few : m % 2 ^ places * 1000000 < 2 ^ 20 * 2 ^ places := by omega
  have near := abs_round_nearest_sub_le unit few
  have split : (m : ℚ) = 2 ^ places * (m / 2 ^ places : Nat) + (m % 2 ^ places : Nat) := by
    exact_mod_cast (Nat.div_add_mod m (2 ^ places)).symm
  have fraction : ((m % 2 ^ places * 1000000 : Nat) : ℚ) / (2 ^ places : Nat) =
      1000000 * (m / 2 ^ places) - (m / 2 ^ places : Nat) * 1000000 := by
    push_cast
    rw [split]
    field_simp
    ring
  rw [fraction] at near
  rw [roundedMicros_natCast]
  generalize (nearest _ _).round = rounded at near ⊢
  generalize m / 2 ^ places = whole at near ⊢
  have error : ((whole * 1000000 + rounded : Int) : ℚ) - 1000000 * (m / 2 ^ places) =
      rounded - (1000000 * (m / 2 ^ places) - whole * 1000000) := by
    push_cast
    ring
  rw [error]
  exact near

/-! ## Back to the seconds -/

/-- Milliseconds between two powers of two of 1024ths of a second, and the places that the seconds
have as a double. -/
structure IsOctave (millis order places : Nat) : Prop where
  total : order + places = 62
  enough : 15 ≤ places
  low : 1000 * 2 ^ order ≤ 1024 * millis
  high : 1024 * millis < 1000 * 2 ^ (order + 1)

namespace IsOctave

variable {millis order places : Nat}

theorem one_le (octave : IsOctave millis order places) : 1 ≤ millis := by
  have low := octave.low
  have positive : 1 ≤ 2 ^ order := Nat.pow_pos two_pos
  omega

/-- The units of the last place in a thousand times the seconds. -/
theorem units_bounds (octave : IsOctave millis order places) :
    1000 * 2 ^ 52 ≤ millis * 2 ^ places ∧ millis * 2 ^ places + 512 ≤ 1000 * 2 ^ 53 := by
  obtain ⟨total, enough, low, high⟩ := octave
  have whole : 2 ^ order * 2 ^ places = 2 ^ 62 := by rw [← Nat.pow_add, total]
  have unit : 2 ^ 15 ≤ 2 ^ places := Nat.pow_le_pow_right two_pos enough
  have sixteenths : 1024 * millis + 16 ≤ 2000 * 2 ^ order := by omega
  have atLeast := Nat.mul_le_mul_right (2 ^ places) low
  have atMost := Nat.mul_le_mul_right (2 ^ places) sixteenths
  rw [Nat.mul_assoc, whole, Nat.mul_assoc] at atLeast
  rw [Nat.add_mul, Nat.mul_assoc, Nat.mul_assoc 2000, whole] at atMost
  omega

theorem units_eq (octave : IsOctave millis order places) :
    millis * 2 ^ places = 8 * (millis * 2 ^ (places - 3)) := by
  have enough := octave.enough
  obtain ⟨more, rfl⟩ := Nat.exists_eq_add_of_le (by omega : 3 ≤ places)
  rw [Nat.add_sub_cancel_left, Nat.pow_add]
  ring

end IsOctave

def secondsMantissa (millis places : Nat) : Nat :=
  roundHalfEven (millis * 2 ^ places) 1000

namespace IsOctave

variable {millis order places : Nat}

/-- A thousand times the mantissa differs from the units by less than half of a thousand. -/
theorem mantissa_near (octave : IsOctave millis order places) :
    1000 * secondsMantissa millis places ≤ millis * 2 ^ places + 496 ∧
      millis * 2 ^ places ≤ 1000 * secondsMantissa millis places + 496 := by
  have near := roundHalfEven_near (millis * 2 ^ places) (by decide : 0 < 1000)
  have eighths := octave.units_eq
  rw [← secondsMantissa] at near
  omega

theorem mantissa_bounds (octave : IsOctave millis order places) :
    2 ^ 52 ≤ secondsMantissa millis places ∧ secondsMantissa millis places < 2 ^ 53 := by
  have near := octave.mantissa_near
  have bounds := octave.units_bounds
  omega

theorem nearest_seconds (octave : IsOctave millis order places) :
    nearest millis 1000 = ⟨secondsMantissa millis places, -(places : Int)⟩ := by
  obtain ⟨low, high⟩ := octave.units_bounds
  have bounds := octave.mantissa_bounds
  have total := octave.total
  rw [nearest_natCast, nearestNat_eq_of_bounds (by decide) (by omega) (by omega) (by omega)
    (by rw [← secondsMantissa]; omega)]
  rfl

/-- With many places the microseconds are a thousand times the milliseconds. -/
theorem eq_mul_of_many (octave : IsOctave millis order places) (many : 20 ≤ places) {micros : Nat}
    (near : |(micros : ℚ) - 1000000 * (secondsMantissa millis places / 2 ^ places)| ≤
      1 / 2 + 1 / 2 ^ 34) : micros = 1000 * millis := by
  have unit : (2 : ℚ) ^ 20 ≤ 2 ^ places := pow_le_pow_right₀ one_le_two many
  have positive : (0 : ℚ) < 2 ^ places := by positivity
  obtain ⟨above, below⟩ := octave.mantissa_near
  have above : 1000 * (secondsMantissa millis places : ℚ) ≤ millis * 2 ^ places + 496 := by
    exact_mod_cast above
  have below : (millis : ℚ) * 2 ^ places ≤ 1000 * secondsMantissa millis places + 496 := by
    exact_mod_cast below
  have seconds : |1000000 * (secondsMantissa millis places / 2 ^ places) - 1000 * (millis : ℚ)| ≤
      496000 / 2 ^ 20 := by
    have error : 1000000 * (secondsMantissa millis places / 2 ^ places) - 1000 * (millis : ℚ) =
        1000 * (1000 * secondsMantissa millis places - millis * 2 ^ places) / 2 ^ places := by
      field_simp
      ring
    have bounded : |1000 * (1000 * (secondsMantissa millis places : ℚ) - millis * 2 ^ places)| ≤
        496000 := by
      rw [abs_le]
      constructor <;> linarith
    rw [error, abs_div, abs_of_pos positive]
    exact div_le_div₀ (by norm_num) bounded (by norm_num) unit
  have close : |(micros : ℚ) - 1000 * millis| < 1 := by
    have sum := abs_sub_le (micros : ℚ) (1000000 * (secondsMantissa millis places / 2 ^ places))
      (1000 * millis)
    have small : (1 / 2 + 1 / 2 ^ 34 + 496000 / 2 ^ 20 : ℚ) < 1 := by norm_num
    linarith
  have integers : |(micros : Int) - 1000 * millis| < 1 := by exact_mod_cast close
  rw [Int.abs_lt_one_iff] at integers
  omega

/-- With few places the microseconds are the nearest to the seconds. -/
theorem near_of_few (few : places < 20) {mantissa micros : Nat}
    (near : |(micros : ℚ) - 1000000 * (mantissa / 2 ^ places)| ≤ 1 / 2 + 1 / 2 ^ 34) :
    2 * (mantissa * 1000000) < 2 * (micros * 2 ^ places) + 1000000 ∧
      2 * (micros * 2 ^ places) < 2 * (mantissa * 1000000) + 1000000 := by
  have unit : (2 : ℚ) ^ places ≤ 2 ^ 19 := pow_le_pow_right₀ one_le_two (by omega)
  have positive : (0 : ℚ) < 2 ^ places := by positivity
  have scaled : |(micros : ℚ) * 2 ^ places - mantissa * 1000000| < 500000 := by
    have error : (micros : ℚ) * 2 ^ places - mantissa * 1000000 =
        (micros - 1000000 * (mantissa / 2 ^ places)) * 2 ^ places := by
      field_simp
    rw [error, abs_mul, abs_of_pos positive]
    calc _ ≤ (1 / 2 + 1 / 2 ^ 34 : ℚ) * 2 ^ 19 := mul_le_mul near unit positive.le (by norm_num)
      _ < 500000 := by norm_num
  obtain ⟨below, above⟩ := abs_lt.mp scaled
  have low : (2 * (mantissa * 1000000) : ℚ) < 2 * (micros * 2 ^ places) + 1000000 := by linarith
  have high : (2 * (micros * 2 ^ places) : ℚ) < 2 * (mantissa * 1000000) + 1000000 := by linarith
  exact ⟨by exact_mod_cast low, by exact_mod_cast high⟩

/-- The microseconds that are rounded to the mantissa of the seconds. -/
theorem nearestNat_micros (octave : IsOctave millis order places) {micros : Nat}
    (low : 2 ^ 52 * 1000000 ≤ micros * 2 ^ places)
    (notAbove : 2 * (secondsMantissa millis places * 1000000) < 2 * (micros * 2 ^ places) + 1000000)
    (notBelow : 2 * (micros * 2 ^ places) <
      2 * (secondsMantissa millis places * 1000000) + 1000000) :
    nearestNat micros 1000000 = (secondsMantissa millis places, -(places : Int)) := by
  have bounds := octave.mantissa_bounds
  have total := octave.total
  have rounded : roundHalfEven (micros * 2 ^ places) 1000000 = secondsMantissa millis places :=
    roundHalfEven_eq (by decide) notAbove notBelow
  rw [nearestNat_eq_of_bounds (by decide) low (by omega) (by omega) (by rw [rounded]; omega),
    rounded]

/-- The seconds that are told by the microseconds are those that were rounded to them. -/
theorem nearest_micros (octave : IsOctave millis order places) :
    nearest (roundedMicros (nearest millis 1000)) 1000000 = nearest millis 1000 := by
  rw [octave.nearest_seconds]
  have bounds := octave.mantissa_bounds
  have near := abs_roundedMicros_sub_le (secondsMantissa millis places) places
  have reached {c : Nat} (below : c * 2 ^ places ≤ secondsMantissa millis places) :
      (c * 1000000 : Int) ≤ roundedMicros ⟨secondsMantissa millis places, -(places : Int)⟩ := by
    apply mul_le_roundedMicros (Int.natCast_nonneg _)
    rw [value_natCast, le_div_iff₀ (by positivity)]
    exact_mod_cast below
  generalize roundedMicros ⟨secondsMantissa millis places, -(places : Int)⟩ = micros
    at near reached ⊢
  have nonneg : 0 ≤ micros := reached (c := 0) (by omega)
  obtain ⟨micros, rfl⟩ := Int.eq_ofNat_of_zero_le nonneg
  rw [nearest_natCast]
  rcases Nat.lt_or_ge places 20 with few | many
  · obtain ⟨notAbove, notBelow⟩ := near_of_few few (by exact_mod_cast near)
    have whole : 2 ^ (52 - places) * 2 ^ places = 2 ^ 52 := by
      rw [← Nat.pow_add, Nat.sub_add_cancel (by omega)]
    have atLeast : 2 ^ (52 - places) * 1000000 ≤ micros := by
      exact_mod_cast reached (whole.trans_le bounds.1)
    have low : 2 ^ 52 * 1000000 ≤ micros * 2 ^ places := by
      calc 2 ^ 52 * 1000000 = 2 ^ (52 - places) * 1000000 * 2 ^ places := by
            rw [Nat.mul_right_comm, whole]
        _ ≤ micros * 2 ^ places := Nat.mul_le_mul_right _ atLeast
    rw [octave.nearestNat_micros low notAbove notBelow]
  · have seconds := octave.mantissa_near
    have units := octave.units_bounds
    obtain rfl : micros = 1000 * millis := octave.eq_mul_of_many many (by exact_mod_cast near)
    have scaled : 1000 * millis * 2 ^ places = 1000 * (millis * 2 ^ places) := Nat.mul_assoc _ _ _
    rw [octave.nearestNat_micros (by omega) (by omega) (by omega)]

end IsOctave

/-! ## Back to the milliseconds -/

/-- The milliseconds that are told for milliseconds, by way of the microseconds. -/
def toldMillis (millis : Int) : Int :=
  ((nearest (roundedMicros (nearest millis 1000)) 1000000).mulNat 1000).truncate

theorem toldMillis_neg (millis : Int) : toldMillis (-millis) = -toldMillis millis := by
  rw [toldMillis, nearest_neg, roundedMicros_neg, nearest_neg, mulNat_neg, truncate_neg, toldMillis]

/-- The seconds were rounded down, and a thousand times what they lost is more than half of the unit
in which the milliseconds are told. The order counts powers of two from 1024ths of a second on. -/
def LosesMilli (millis : Nat) : Prop :=
  let order := (millis * 1024 / 1000).log2
  millis < 2 ^ order ∧ 256 < millis * 2 ^ (62 - order) % 1000 ∧
    millis * 2 ^ (62 - order) % 1000 < 500

instance (millis : Nat) : Decidable (LosesMilli millis) :=
  inferInstanceAs (Decidable (_ ∧ _))

theorem roundHalfEven_near_even {num a : Nat} (even : a % 2 = 0) (low : 512 * a ≤ num + 256)
    (high : num < 512 * a + 512) : roundHalfEven num 512 = a ∨ roundHalfEven num 512 = a + 1 := by
  unfold roundHalfEven
  dsimp only
  split_ifs <;> omega

namespace IsOctave

variable {millis order places : Nat}

theorem isOctave_log2 (positive : 1 ≤ millis) (bounded : millis < 1000 * 2 ^ 38) :
    IsOctave millis (millis * 1024 / 1000).log2 (62 - (millis * 1024 / 1000).log2) := by
  have nonzero : millis * 1024 / 1000 ≠ 0 := by omega
  have low := Nat.log2_self_le nonzero
  have high := Nat.lt_log2_self (n := millis * 1024 / 1000)
  have small : (millis * 1024 / 1000).log2 < 48 := (Nat.log2_lt nonzero).mpr (by omega)
  exact ⟨by omega, by omega, by omega, by omega⟩

/-- What was cut off from the units, or filled up. -/
theorem mantissa_eq (octave : IsOctave millis order places) :
    millis * 2 ^ places % 1000 < 500 ∧
        1000 * secondsMantissa millis places + millis * 2 ^ places % 1000 = millis * 2 ^ places ∨
      500 < millis * 2 ^ places % 1000 ∧
        1000 * secondsMantissa millis places + millis * 2 ^ places % 1000 =
          millis * 2 ^ places + 1000 := by
  have eighths := octave.units_eq
  unfold secondsMantissa roundHalfEven
  dsimp only
  split_ifs <;> omega

/-- The milliseconds have fewer places than the seconds, and these are cut off. -/
theorem toldMillis_eq_div {fewer more : Nat} (octave : IsOctave millis order (fewer + more))
    (low : 2 ^ 52 * 2 ^ fewer ≤ secondsMantissa millis (fewer + more) * 1000)
    (high : secondsMantissa millis (fewer + more) * 1000 < 2 ^ 53 * 2 ^ fewer) {rounded : Nat}
    (told : roundHalfEven (secondsMantissa millis (fewer + more) * 1000) (2 ^ fewer) = rounded)
    (notFull : rounded < 2 ^ 53) : toldMillis millis = (rounded / 2 ^ more : Nat) := by
  have total := octave.total
  rw [toldMillis, octave.nearest_micros, octave.nearest_seconds, mulNat_natCast,
    truncate_nearest low high (by omega) (by omega), told]

/-- From a power of two on, the unit of the milliseconds is large enough for what was lost. -/
theorem toldMillis_of_upper (octave : IsOctave millis order places)
    (upper : 2 ^ order ≤ millis) : toldMillis millis = millis := by
  have enough := octave.enough
  obtain ⟨more, rfl⟩ := Nat.exists_eq_add_of_le (by omega : 10 ≤ places)
  have near := octave.mantissa_near
  have bounds := octave.mantissa_bounds
  have unitsBound := octave.units_bounds.2
  have units : millis * 2 ^ (10 + more) = 1024 * (millis * 2 ^ more) := by
    rw [Nat.pow_add]
    ring
  have atLeast : 2 ^ 62 ≤ millis * 2 ^ (10 + more) := by
    calc 2 ^ 62 = 2 ^ order * 2 ^ (10 + more) := by rw [← Nat.pow_add, octave.total]
      _ ≤ millis * 2 ^ (10 + more) := Nat.mul_le_mul_right _ upper
  have mantissa : 4611686018427388 ≤ secondsMantissa millis (10 + more) :=
    (by decide : 4611686018427388 ≤ roundHalfEven (2 ^ 62) 1000).trans (roundHalfEven_mono atLeast)
  have rounded : roundHalfEven (secondsMantissa millis (10 + more) * 1000) (2 ^ 10) =
      millis * 2 ^ more := roundHalfEven_eq (by decide) (by omega) (by omega)
  rw [octave.toldMillis_eq_div (by omega) (by omega) rounded (by omega),
    Nat.mul_div_cancel _ (Nat.pow_pos two_pos)]

/-- Below it, the units of the milliseconds are 512 units of the last place, and an even number of
them makes a whole number of milliseconds. -/
theorem units_of_lower {more : Nat} (octave : IsOctave millis order (9 + (1 + more)))
    (lower : millis < 2 ^ order) :
    millis * 2 ^ (9 + (1 + more)) = 512 * (millis * 2 ^ (1 + more)) ∧
      millis * 2 ^ (1 + more) % 2 = 0 ∧ 2 ≤ 2 ^ (1 + more) ∧
      millis * 2 ^ (9 + (1 + more)) + 2 ^ 15 ≤ 2 ^ 62 := by
  refine ⟨?_, ?_, ?_, ?_⟩
  · rw [Nat.pow_add]
    ring
  · rw [Nat.pow_add, Nat.mul_left_comm]
    exact Nat.mul_mod_right 2 _
  · exact Nat.pow_le_pow_right two_pos (Nat.le_add_right 1 more)
  · calc millis * 2 ^ (9 + (1 + more)) + 2 ^ 15
        ≤ millis * 2 ^ (9 + (1 + more)) + 2 ^ (9 + (1 + more)) :=
          Nat.add_le_add_left (Nat.pow_le_pow_right two_pos octave.enough) _
      _ = (millis + 1) * 2 ^ (9 + (1 + more)) := (Nat.succ_mul _ _).symm
      _ ≤ 2 ^ order * 2 ^ (9 + (1 + more)) := Nat.mul_le_mul_right _ lower
      _ = 2 ^ 62 := by rw [← Nat.pow_add, octave.total]

theorem toldMillis_of_loss (octave : IsOctave millis order places) (lower : millis < 2 ^ order)
    (loss : 256 < millis * 2 ^ places % 1000) (down : millis * 2 ^ places % 1000 < 500) :
    toldMillis millis = (millis : Int) - 1 := by
  have enough := octave.enough
  obtain ⟨more, rfl⟩ : ∃ more, places = 9 + (1 + more) := ⟨places - 10, by omega⟩
  have bounds := octave.mantissa_bounds
  have cut := octave.mantissa_eq
  obtain ⟨units, _, unit, atMost⟩ := octave.units_of_lower lower
  have rounded : roundHalfEven (secondsMantissa millis (9 + (1 + more)) * 1000) (2 ^ 9) =
      millis * 2 ^ (1 + more) - 1 := roundHalfEven_eq (by decide) (by omega) (by omega)
  have positive := octave.one_le
  have whole : (millis * 2 ^ (1 + more) - 1) / 2 ^ (1 + more) = millis - 1 := by
    have less : (millis - 1) * 2 ^ (1 + more) + 2 ^ (1 + more) = millis * 2 ^ (1 + more) := by
      rw [← Nat.succ_mul, Nat.succ_eq_add_one, Nat.sub_add_cancel positive]
    apply Nat.div_eq_of_lt_le
    · omega
    · rw [Nat.add_mul]
      omega
  rw [octave.toldMillis_eq_div (by omega) (by omega) rounded (by omega), whole,
    Nat.cast_sub positive, Nat.cast_one]

theorem toldMillis_of_noLoss (octave : IsOctave millis order places) (lower : millis < 2 ^ order)
    (keeps : millis * 2 ^ places % 1000 ≤ 256 ∨ 500 ≤ millis * 2 ^ places % 1000) :
    toldMillis millis = millis := by
  have enough := octave.enough
  obtain ⟨more, rfl⟩ : ∃ more, places = 9 + (1 + more) := ⟨places - 10, by omega⟩
  have near := octave.mantissa_near
  have bounds := octave.mantissa_bounds
  have cut := octave.mantissa_eq
  obtain ⟨units, even, unit, atMost⟩ := octave.units_of_lower lower
  have rounded : roundHalfEven (secondsMantissa millis (9 + (1 + more)) * 1000) (2 ^ 9) =
        millis * 2 ^ (1 + more) ∨
      roundHalfEven (secondsMantissa millis (9 + (1 + more)) * 1000) (2 ^ 9) =
        millis * 2 ^ (1 + more) + 1 := roundHalfEven_near_even even (by omega) (by omega)
  rcases rounded with exactly | above
  · rw [octave.toldMillis_eq_div (by omega) (by omega) exactly (by omega),
      Nat.mul_div_cancel _ (Nat.pow_pos two_pos)]
  · have whole : (millis * 2 ^ (1 + more) + 1) / 2 ^ (1 + more) = millis := by
      apply Nat.div_eq_of_lt_le
      · omega
      · rw [Nat.add_mul]
        omega
    rw [octave.toldMillis_eq_div (by omega) (by omega) above (by omega), whole]

end IsOctave

theorem toldMillis_natCast {millis : Nat} (bounded : millis < 1000 * 2 ^ 38) :
    toldMillis millis = if LosesMilli millis then (millis : Int) - 1 else millis := by
  rcases Nat.eq_zero_or_pos millis with rfl | positive
  · rfl
  · have octave := IsOctave.isOctave_log2 positive bounded
    split
    · next loses =>
      obtain ⟨lower, loss, down⟩ := loses
      exact octave.toldMillis_of_loss lower loss down
    · next keeps =>
      rcases Nat.lt_or_ge millis (2 ^ (millis * 1024 / 1000).log2) with lower | upper
      · have noLoss : ¬ (256 < millis * 2 ^ (62 - (millis * 1024 / 1000).log2) % 1000 ∧
            millis * 2 ^ (62 - (millis * 1024 / 1000).log2) % 1000 < 500) :=
          fun loses => keeps ⟨lower, loses⟩
        exact octave.toldMillis_of_noLoss lower (by omega)
      · exact octave.toldMillis_of_upper upper

/-- What is told is one nearer to zero than the milliseconds, where a millisecond is lost. -/
theorem toldMillis_eq {millis : Int} (bounded : millis.natAbs < 1000 * 2 ^ 38) :
    toldMillis millis = if LosesMilli millis.natAbs then millis - millis.sign else millis := by
  have natural := toldMillis_natCast bounded
  rcases Int.lt_trichotomy millis 0 with negative | rfl | positive
  · have flipped : millis = -(millis.natAbs : Int) := by omega
    rw [Int.sign_eq_neg_one_of_neg negative]
    conv_lhs => rw [flipped, toldMillis_neg, natural]
    split <;> omega
  · exact natural
  · have same : (millis.natAbs : Int) = millis := by omega
    rw [same] at natural
    rw [natural, Int.sign_eq_one_of_pos positive]

/-! ## Instants -/

theorem eq_of_ofEpochMillis {millis : Int} {t : DateTime} (told : ofEpochMillis millis = .ok t) :
    t.wallMicros = roundedMicros (nearest millis 1000) + epochMicros ∧ t.offset = some 0 := by
  unfold ofEpochMillis at told
  dsimp only at told
  split at told
  · cases told
  · unfold ofEpochSeconds at told
    dsimp only at told
    rw [splitSeconds_total] at told
    split_ifs at told
    exact eq_of_ofWallMicros told

/-- Milliseconds on the calendar are fewer than 2 ^ 38 thousands. -/
theorem natAbs_lt_of_ofEpochMillis {millis : Int} {t : DateTime}
    (told : ofEpochMillis millis = .ok t) : millis.natAbs < 1000 * 2 ^ 38 := by
  have calendar := t.onCalendar_wallMicros
  have last : Date.lastDay = 3652059 := rfl
  have day : dayMicros = 86400000000 := rfl
  have epoch : epochMicros = 62135596800000000 := rfl
  rw [(eq_of_ofEpochMillis told).1, OnCalendar, last, day, epoch] at calendar
  by_contra far
  have beyond {n : Int} (large : 1000 * 2 ^ 38 ≤ n) :
      (2 ^ 38 * 1000000 : Int) ≤ roundedMicros (nearest n 1000) := by
    have reached : ((2 ^ 38 : Nat) : ℚ) ≤ (nearest n 1000).value := by
      have least : (nearest (1000 * 2 ^ 38) 1000).value = (2 ^ 38 : Nat) := by
        rw [value_of_nearest (m := 4503599627370496) (e := -14) (by decide +kernel)]
        norm_num
      rw [← least]
      exact value_nearest_mono (by decide) large
    exact mul_le_roundedMicros (mantissa_nearest_nonneg (by omega) 1000) reached
  rcases Int.natAbs_eq millis with same | flipped
  · have micros := beyond (n := millis) (by omega)
    omega
  · have micros := beyond (n := -millis) (by omega)
    rw [nearest_neg, roundedMicros_neg] at micros
    omega

theorem epochMillis_of_ofEpochMillis {millis : Int} {t : DateTime}
    (told : ofEpochMillis millis = .ok t) : t.epochMillis =
      .ok (if LosesMilli millis.natAbs then millis - millis.sign else millis) := by
  obtain ⟨wall, offset⟩ := eq_of_ofEpochMillis told
  have instant : t.instant - epochMicros = roundedMicros (nearest millis 1000) := by
    rw [DateTime.instant, wall, offset, Option.getD_some]
    omega
  have tellable : t.offsetToTell = .ok (some 0) := by
    rw [offsetToTell, offset]
    rfl
  rw [epochMillis, tellable, instant, ← toldMillis_eq (natAbs_lt_of_ofEpochMillis told)]
  rfl

end DateTime

end SolrRequest
