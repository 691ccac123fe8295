import SolrRequest.Calendar.Epoch
import SolrRequest.Proofs.Calendar.DayNumber
import SolrRequest.Proofs.Number.Nearest

/-!
# Instants with years beyond thirty-two bits

Milliseconds become seconds by one rounding, which keeps their order. So the milliseconds whose year
does not fit thirty-two bits, while their seconds still fit sixty-four, are two intervals, and their
ends are found by rounding four numbers.
-/

namespace SolrRequest

namespace Calendar

theorem exists_year {number : Nat} (positive : 1 ≤ number) : ∃ year, 1 ≤ year ∧
    daysBeforeYear year < number ∧ number ≤ daysBeforeYear (year + 1) := by
  induction number, positive using Nat.le_induction with
  | base => exact ⟨1, by decide⟩
  | succ number _ inductionHypothesis =>
    obtain ⟨year, first, after, within⟩ := inductionHypothesis
    rcases within.lt_or_eq with sameYear | newYear
    · exact ⟨year, first, by omega, sameYear⟩
    · have next := daysBeforeYear_succ (Nat.le_add_left 1 year)
      refine ⟨year + 1, by omega, by omega, ?_⟩
      split at next <;> omega

theorem le_yearOfDay_iff (year : Nat) {number : Nat} (positive : 1 ≤ number) :
    year ≤ yearOfDay number ↔ daysBeforeYear year < number := by
  obtain ⟨found, first, after, within⟩ := exists_year positive
  rw [yearOfDay_eq first after within]
  constructor
  · intro notLater
    exact (daysBeforeYear_mono notLater).trans_lt after
  · intro started
    by_contra later
    have := daysBeforeYear_mono (show found + 1 ≤ year by omega)
    omega

/-- The year is split into four hundreds of years, which all have the same length, and the rest. -/
theorem le_yearOfAnyDay_iff (hundreds : Int) {year : Nat} (positive : 1 ≤ year)
    (bounded : year ≤ 400)
    (number : Int) : 400 * hundreds + year ≤ yearOfAnyDay number ↔
      146097 * hundreds + daysBeforeYear year < number := by
  have rest := Int.emod_nonneg (number - 1) (show (146097 : Int) ≠ 0 by decide)
  have restLt := Int.emod_lt_of_pos (number - 1) (show (0 : Int) < 146097 by decide)
  have whole := Int.mul_ediv_add_emod (number - 1) 146097
  have first := le_yearOfDay_iff 1 (Nat.le_add_left 1 ((number - 1) % 146097).toNat)
  have last := le_yearOfDay_iff 401 (Nat.le_add_left 1 ((number - 1) % 146097).toNat)
  have here := le_yearOfDay_iff year (Nat.le_add_left 1 ((number - 1) % 146097).toNat)
  have low := daysBeforeYear_mono positive
  have high := daysBeforeYear_mono (show year ≤ 401 by omega)
  have noDays : daysBeforeYear 1 = 0 := rfl
  have allDays : daysBeforeYear 401 = 146097 := rfl
  simp only [yearOfAnyDay, Int.fdiv_eq_ediv_of_nonneg _ (show (0 : Int) ≤ 146097 by decide),
    Int.fmod_eq_emod_of_nonneg _ (show (0 : Int) ≤ 146097 by decide)]
  omega

end Calendar

namespace DateTime

open Calendar

/-- The seconds whose year does not fit thirty-two bits. -/
theorem year_iff (seconds : Int) :
    (yearOfAnyDay (seconds.fdiv 86400 + epochDay) - 1900 < -yearBound ∨
      yearBound ≤ yearOfAnyDay (seconds.fdiv 86400 + epochDay) - 1900) ↔
      seconds < -67768040609740800 ∨ 67768036191676800 ≤ seconds := by
  have after := le_yearOfAnyDay_iff 5368713 (show 1 ≤ 348 by decide) (by decide)
    (seconds.fdiv 86400 + epochDay)
  have before := le_yearOfAnyDay_iff (-5368705) (show 1 ≤ 252 by decide) (by decide)
    (seconds.fdiv 86400 + epochDay)
  have late : daysBeforeYear 348 = 126738 := rfl
  have early : daysBeforeYear 252 = 91675 := rfl
  have bound : yearBound = 2147483648 := rfl
  rw [Int.fdiv_eq_ediv_of_nonneg _ (by decide), epochDay] at *
  omega

/-! ## Seconds as doubles -/

theorem round_mulNat_of_zero {x : Double} (zero : x.mantissa = 0) (n : Nat) :
    (x.mulNat n).round = 0 := by
  have product : x.ratio.1 * n = 0 := by simp [Double.ratio, zero]
  rw [Double.mulNat, product]
  simp [Double.nearest, Double.nearestNat, Double.round, Double.ratio, Double.roundHalfEven]

theorem splitSeconds_of_exponent_nonneg {s : Double} (whole : 0 ≤ s.exponent) :
    splitSeconds s = (s.truncate, 0) := by
  have noMicros := round_mulNat_of_zero (s.mantissa_fraction_of_exponent_nonneg whole) 1000000
  simp [splitSeconds, noMicros]

theorem natAbs_splitSeconds_le (s : Double) :
    (splitSeconds s).1.natAbs ≤ s.truncate.natAbs + 1 := by
  unfold splitSeconds
  dsimp only
  split_ifs <;> omega

theorem splitSeconds_of_large {s : Double} (significand : s.mantissa.natAbs < 2 ^ 53)
    (large : 2 ^ 53 ≤ |s.value|) : ((splitSeconds s).1 : ℚ) = s.value := by
  have whole := Double.exponent_nonneg_of_large significand large
  rw [splitSeconds_of_exponent_nonneg whole, Double.truncate_of_exponent_nonneg whole]

theorem natAbs_splitSeconds_of_small {s : Double} (small : |s.value| < 2 ^ 53) :
    (splitSeconds s).1.natAbs ≤ 2 ^ 53 := by
  have truncated := s.abs_truncate_le.trans_lt small
  rw [← Int.cast_abs, Int.abs_eq_natAbs] at truncated
  have whole : s.truncate.natAbs < 2 ^ 53 := by exact_mod_cast truncated
  exact (natAbs_splitSeconds_le s).trans whole

/-- The seconds of these milliseconds fit sixty-four bits, but their year does not fit
thirty-two. -/
def IsBeyondYears (millis : Int) : Prop :=
  (millis < -67768040609740804000 ∨ 67768036191676796000 ≤ millis) ∧
    -9223372036854776832000 ≤ millis ∧ millis < 9223372036854775296000

/-- The seconds of these milliseconds are two to the power of sixty-three, one more than fits. -/
def IsAtLimit (millis : Int) : Prop :=
  9223372036854775296000 ≤ millis ∧ millis ≤ 9223372036854776832000

instance (millis : Int) : Decidable (IsAtLimit millis) :=
  inferInstanceAs (Decidable (_ ∧ _))

instance (millis : Int) : Decidable (IsBeyondYears millis) :=
  inferInstanceAs (Decidable (_ ∧ _))

theorem le_value_nearest_iff {bound : ℚ} {least : Int}
    (reached : bound ≤ (Double.nearest least 1000).value)
    (notBefore : (Double.nearest (least - 1) 1000).value < bound) (millis : Int) :
    bound ≤ (Double.nearest millis 1000).value ↔ least ≤ millis := by
  constructor
  · intro above
    by_contra earlier
    have order := Double.value_nearest_mono (show 0 < 1000 by decide)
      (show millis ≤ least - 1 by omega)
    exact (order.trans_lt notBefore).not_ge above
  · intro order
    exact reached.trans (Double.value_nearest_mono (by decide) order)

theorem value_of_nearest {n m e : Int} (rounded : Double.nearest n 1000 = ⟨m, e⟩) :
    (Double.nearest n 1000).value = m * 2 ^ e := by
  rw [rounded, Double.value]

theorem limit_le_value_iff (millis : Int) :
    (9223372036854775808 : ℚ) ≤ (Double.nearest millis 1000).value ↔
      9223372036854775296000 ≤ millis := by
  apply le_value_nearest_iff
  · rw [value_of_nearest (m := 4503599627370496) (e := 11) (by decide +kernel)]
    norm_num
  · rw [value_of_nearest (m := 9007199254740991) (e := 10) (by decide +kernel)]
    norm_num

theorem isBeyondYears_iff_value (millis : Int) :
    IsBeyondYears millis ↔
      ((Double.nearest millis 1000).value < -67768040609740800 ∨
        67768036191676800 ≤ (Double.nearest millis 1000).value) ∧
      -9223372036854775808 ≤ (Double.nearest millis 1000).value ∧
      (Double.nearest millis 1000).value < 9223372036854775808 := by
  have early : (-67768040609740800 : ℚ) ≤ (Double.nearest millis 1000).value ↔
      -67768040609740804000 ≤ millis := by
    apply le_value_nearest_iff
    · rw [value_of_nearest (m := -8471005076217600) (e := 3) (by decide +kernel)]
      norm_num
    · rw [value_of_nearest (m := -8471005076217601) (e := 3) (by decide +kernel)]
      norm_num
  have late : (67768036191676800 : ℚ) ≤ (Double.nearest millis 1000).value ↔
      67768036191676796000 ≤ millis := by
    apply le_value_nearest_iff
    · rw [value_of_nearest (m := 8471004523959600) (e := 3) (by decide +kernel)]
      norm_num
    · rw [value_of_nearest (m := 8471004523959599) (e := 3) (by decide +kernel)]
      norm_num
  have least : (-9223372036854775808 : ℚ) ≤ (Double.nearest millis 1000).value ↔
      -9223372036854776832000 ≤ millis := by
    apply le_value_nearest_iff
    · rw [value_of_nearest (m := -4503599627370496) (e := 11) (by decide +kernel)]
      norm_num
    · rw [value_of_nearest (m := -4503599627370497) (e := 11) (by decide +kernel)]
      norm_num
  simp only [← not_le, early, late, least, limit_le_value_iff, IsBeyondYears]

theorem isAtLimit_iff_value (millis : Int) :
    IsAtLimit millis ↔ 9223372036854775808 ≤ (Double.nearest millis 1000).value ∧
      (Double.nearest millis 1000).value < 9223372036854775809 := by
  have beyond : (9223372036854775809 : ℚ) ≤ (Double.nearest millis 1000).value ↔
      9223372036854776832001 ≤ millis := by
    apply le_value_nearest_iff
    · rw [value_of_nearest (m := 4503599627370497) (e := 11) (by decide +kernel)]
      norm_num
    · rw [value_of_nearest (m := 4503599627370496) (e := 11) (by decide +kernel)]
      norm_num
  simp only [← not_le, beyond, limit_le_value_iff, IsAtLimit]
  omega

/-- The seconds of milliseconds whose double is large are the double, and else they are small. -/
theorem splitSeconds_nearest (millis : Int) :
    ((splitSeconds (Double.nearest millis 1000)).1 : ℚ) = (Double.nearest millis 1000).value ∨
      |(Double.nearest millis 1000).value| < 2 ^ 53 ∧
        (splitSeconds (Double.nearest millis 1000)).1.natAbs ≤ 2 ^ 53 := by
  rcases le_or_gt (2 ^ 53) |(Double.nearest millis 1000).value| with large | small
  · exact .inl (splitSeconds_of_large (Double.natAbs_mantissa_nearest_lt (by decide) millis) large)
  · exact .inr ⟨small, natAbs_splitSeconds_of_small small⟩

theorem isBeyondYears_iff_seconds (millis : Int) :
    IsBeyondYears millis ↔
      ((splitSeconds (Double.nearest millis 1000)).1 < -67768040609740800 ∨
        67768036191676800 ≤ (splitSeconds (Double.nearest millis 1000)).1) ∧
      -secondsBound ≤ (splitSeconds (Double.nearest millis 1000)).1 ∧
        (splitSeconds (Double.nearest millis 1000)).1 < secondsBound := by
  have bound : secondsBound = 9223372036854775808 := rfl
  rw [isBeyondYears_iff_value]
  rcases splitSeconds_nearest millis with seconds | ⟨small, seconds⟩
  · rw [← seconds]
    norm_cast
  · rw [abs_lt] at small
    constructor
    · rintro ⟨early | late, _⟩
      · linarith
      · linarith
    · rintro ⟨far, _⟩
      omega

theorem isAtLimit_iff_seconds (millis : Int) :
    IsAtLimit millis ↔ (splitSeconds (Double.nearest millis 1000)).1 = secondsBound := by
  have bound : secondsBound = 9223372036854775808 := rfl
  rw [isAtLimit_iff_value]
  rcases splitSeconds_nearest millis with seconds | ⟨small, seconds⟩
  · rw [← seconds]
    norm_cast
    omega
  · rw [abs_lt] at small
    constructor
    · rintro ⟨limit, _⟩
      linarith
    · intro limit
      omega

theorem ofEpochSeconds_eq_yearTooLarge_iff (s : Double) :
    ofEpochSeconds s = .error .yearTooLarge ↔
      ((splitSeconds s).1 < -67768040609740800 ∨ 67768036191676800 ≤ (splitSeconds s).1) ∧
        -secondsBound ≤ (splitSeconds s).1 ∧ (splitSeconds s).1 < secondsBound := by
  rw [← year_iff]
  unfold ofEpochSeconds ofWallMicros
  dsimp only
  split_ifs with seconds limit year calendar
  · simp only [reduceCtorEq, Except.error.injEq, false_iff]
    omega
  · simp [limit]
  · simp only [year, true_and, true_iff]
    omega
  · simp [year]
  · split <;> simp [year]

theorem ofEpochSeconds_eq_secondsAtLimit_iff (s : Double) :
    ofEpochSeconds s = .error .secondsAtLimit ↔ (splitSeconds s).1 = secondsBound := by
  unfold ofEpochSeconds ofWallMicros
  dsimp only
  split_ifs with seconds limit year calendar
  · simp only [reduceCtorEq, Except.error.injEq, false_iff]
    have bound : secondsBound = 9223372036854775808 := rfl
    omega
  · simp [limit]
  · simp [limit]
  · simp [limit]
  · split <;> simp [limit]

theorem not_overflows {x : Double} (bounded : |x.value| < 2 ^ 64) : x.overflows = false := by
  rw [Bool.eq_false_iff]
  intro overflow
  have powers : (2 ^ 64 : ℚ) ≤ 2 ^ 1024 := pow_le_pow_right₀ one_le_two (by decide)
  exact (bounded.trans_le powers).not_ge (Double.overflows_iff.mp overflow)

theorem ofEpochMillis_eq_ofEpochSeconds {millis : Int}
    (bounded : |(Double.nearest millis 1000).value| < 2 ^ 64) :
    ofEpochMillis millis = ofEpochSeconds (Double.nearest millis 1000) := by
  rw [ofEpochMillis, not_overflows bounded]
  rfl

theorem eq_ofEpochSeconds_of_error {millis : Int} {e : DateError} (other : e ≠ .quotientTooLarge)
    (failed : ofEpochMillis millis = .error e) :
    ofEpochSeconds (Double.nearest millis 1000) = .error e := by
  unfold ofEpochMillis at failed
  dsimp only at failed
  split at failed
  · cases failed
    exact absurd rfl other
  · exact failed

theorem ofEpochMillis_eq_yearTooLarge_iff (millis : Int) :
    ofEpochMillis millis = .error .yearTooLarge ↔ IsBeyondYears millis := by
  constructor
  · intro failed
    have failed := eq_ofEpochSeconds_of_error (by simp) failed
    exact (isBeyondYears_iff_seconds millis).mpr ((ofEpochSeconds_eq_yearTooLarge_iff _).mp failed)
  · intro beyond
    obtain ⟨_, low, high⟩ := (isBeyondYears_iff_value millis).mp beyond
    have bounded : |(Double.nearest millis 1000).value| < 2 ^ 64 :=
      abs_lt.mpr ⟨by linarith, by linarith⟩
    rw [ofEpochMillis_eq_ofEpochSeconds bounded, ofEpochSeconds_eq_yearTooLarge_iff]
    exact (isBeyondYears_iff_seconds millis).mp beyond

theorem ofEpochMillis_eq_secondsAtLimit_iff (millis : Int) :
    ofEpochMillis millis = .error .secondsAtLimit ↔ IsAtLimit millis := by
  constructor
  · intro failed
    have failed := eq_ofEpochSeconds_of_error (by simp) failed
    exact (isAtLimit_iff_seconds millis).mpr ((ofEpochSeconds_eq_secondsAtLimit_iff _).mp failed)
  · intro limit
    obtain ⟨low, high⟩ := (isAtLimit_iff_value millis).mp limit
    have bounded : |(Double.nearest millis 1000).value| < 2 ^ 64 :=
      abs_lt.mpr ⟨by linarith, by linarith⟩
    rw [ofEpochMillis_eq_ofEpochSeconds bounded, ofEpochSeconds_eq_secondsAtLimit_iff]
    exact (isAtLimit_iff_seconds millis).mp limit

end DateTime

end SolrRequest
