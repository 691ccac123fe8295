import Mathlib
import SolrRequest.Proofs.Number.Nearest

/-!
# What the bits of a float stand for

The class that is read off the bits of a float is the one by which floats are compared. So a float
is above zero, or no number, exactly if its class is, and rounding a quotient always gives a number.

What is known of the model of floats is in none of the modules of Mathlib, and comes with it as a
whole.
-/

namespace SolrRequest

namespace FloatClass

open Float.Model Float.Model.UnpackedFloat

def ofUnpacked : UnpackedFloat → FloatClass
  | .infinity s => .infinite (s == .negative)
  | .notANumber => .notANumber
  | .zero s => .finite (s == .negative) 0 Double.leastExponent
  | .finite s m e _ => .finite (s == .negative) m e

/-! ## The fields of the bits -/

section Fields

variable (b : BitVec Format.binary64.numBits)

theorem toNat_unpackMantissa : (unpackMantissa b).toNat = b.toNat % Nat.pow 2 52 := by
  rw [unpackMantissa_def, BitVec.extractLsb'_toNat, Nat.shiftRight_zero]
  rfl

theorem toNat_unpackExponent :
    (unpackExponent b).toNat = b.toNat / Nat.pow 2 52 % Nat.pow 2 11 := by
  rw [unpackExponent_def, BitVec.extractLsb'_toNat, Nat.shiftRight_eq_div_pow]
  rfl

theorem toNat_unpackSign : (unpackSign b).toNat = b.toNat / Nat.pow 2 63 % 2 := by
  rw [unpackSign_def, BitVec.extractLsb'_toNat, Nat.shiftRight_eq_div_pow]
  rfl

theorem sign_ofBitVec :
    (Sign.ofBitVec (unpackSign b) == .negative) = (b.toNat / Nat.pow 2 63 % 2 == 1) := by
  rw [← toNat_unpackSign]
  generalize unpackSign b = s
  revert s
  decide

theorem eq_full_iff (exponent : BitVec Format.binary64.exponentBits) :
    exponent = -1#_ ↔ exponent.toNat = 2047 :=
  BitVec.toNat_inj.symm

theorem eq_zero_iff {width : Nat} (field : BitVec width) : field = 0#_ ↔ field.toNat = 0 := by
  rw [← BitVec.toNat_inj, BitVec.toNat_zero]

theorem toNat_withImplicitBit (mantissa : BitVec Format.binary64.mantissaBitsWithoutImplicit) :
    (1#1 ++ mantissa).toNat = Nat.pow 2 52 + mantissa.toNat := by
  rw [BitVec.toNat_append, ← Nat.shiftLeft_add_eq_or_of_lt mantissa.isLt]
  rfl

theorem ofBits_eq : ofBits b.toNat = ofUnpacked (UnpackedFloat.unpack Format.binary64 b) := by
  unfold ofBits
  rw [← toNat_unpackExponent, ← toNat_unpackMantissa, ← sign_ofBitVec]
  dsimp only
  fun_cases UnpackedFloat.unpack with
  | case1 mantissa exponent sign s full noMantissa =>
    rw [if_pos ((eq_full_iff _).mp full), if_pos ((eq_zero_iff _).mp noMantissa)]
    rfl
  | case2 mantissa exponent full someMantissa =>
    rw [if_pos ((eq_full_iff _).mp full), if_neg (mt (eq_zero_iff _).mpr someMantissa)]
    rfl
  | case3 mantissa exponent sign s notFull zero noMantissa =>
    rw [if_neg (mt (eq_full_iff _).mpr notFull), if_pos ((eq_zero_iff _).mp zero),
      (eq_zero_iff _).mp noMantissa]
    rfl
  | case4 mantissa exponent e sign s notFull zero someMantissa =>
    have unit : e + 1 = Double.leastExponent := by
      change (exponent.toNat : Int) - 1075 + 1 = -1074
      rw [(eq_zero_iff _).mp zero]
      rfl
    rw [if_neg (mt (eq_full_iff _).mpr notFull), if_pos ((eq_zero_iff _).mp zero), ofUnpacked,
      unit]
  | case5 mantissa exponent e sign s notFull notZero =>
    rw [if_neg (mt (eq_full_iff _).mpr notFull), if_neg (mt (eq_zero_iff _).mpr notZero),
      ofUnpacked, toNat_withImplicitBit]
    rfl

/-- The bits of a NaN are not kept, but what they stand for is. -/
theorem unpack_pack_unpack :
    UnpackedFloat.unpack Format.binary64
        (UnpackedFloat.pack Format.binary64 (UnpackedFloat.unpack Format.binary64 b)) =
      UnpackedFloat.unpack Format.binary64 b := by
  rw [pack_unpack]
  split
  · next noNumber =>
    rw [isNaNBits, decide_eq_true_eq] at noNumber
    rw [unpack_packedNaN, UnpackedFloat.unpack]
    simp [noNumber]
  · rfl

end Fields

/-! ## Floats and their classes -/

theorem ofFloat_eq (x : Float) : ofFloat x = ofUnpacked x.toModel.unpack :=
  ofBits_eq _

theorem ofFloat_ofBits (bits : UInt64) : ofFloat (Float.ofBits bits) = ofBits bits.toNat := by
  rw [ofFloat_eq]
  exact (congrArg ofUnpacked (unpack_pack_unpack _)).trans (ofBits_eq _).symm

theorem isNaN_iff (x : Float) : x.isNaN = true ↔ ofFloat x = .notANumber := by
  change x.toModel.unpack.isNaN = true ↔ _
  rw [ofFloat_eq, UnpackedFloat.isNaN_iff]
  cases x.toModel.unpack <;> simp [ofUnpacked]

theorem unpack_zero : (0 : Float).toModel.unpack = .zero .positive := rfl

theorem pos_iff (x : Float) : 0 < x ↔
    (∃ m e, ofFloat x = .finite false m e ∧ 0 < m) ∨ ofFloat x = .infinite false := by
  have compared : 0 < x ↔ UnpackedFloat.lt (.zero .positive) x.toModel.unpack = true := by
    change Float.lt 0 x = true ↔ _
    rw [Float.lt, decide_eq_true_eq, ← unpack_zero]
    rfl
  rw [compared, ofFloat_eq]
  cases x.toModel.unpack with
  | notANumber => simp [UnpackedFloat.lt, UnpackedFloat.compare, ofUnpacked]
  | infinity s => cases s <;> simp [UnpackedFloat.lt, UnpackedFloat.compare, ofUnpacked]
  | zero s => cases s <;> simp [UnpackedFloat.lt, UnpackedFloat.compare, ofUnpacked]
  | finite s m e positive =>
    cases s <;> simp [UnpackedFloat.lt, UnpackedFloat.compare, ofUnpacked, positive]

theorem isNaN_eq_false_of_pos {x : Float} (positive : 0 < x) : x.isNaN = false := by
  rw [Bool.eq_false_iff, ne_eq, isNaN_iff]
  rcases (pos_iff x).mp positive with ⟨m, e, finite, _⟩ | infinite
  · rw [finite]
    exact FloatClass.noConfusion
  · rw [infinite]
    exact FloatClass.noConfusion

/-- The bits of infinity are the greatest that stand for a number. -/
theorem ofBits_ne_notANumber {bits : Nat} (bounded : bits ≤ 2047 * Nat.pow 2 52)
    (negative : Bool) :
    ofBits (bits + if negative then Nat.pow 2 63 else 0) ≠ .notANumber := by
  simp only [Nat.pow_eq] at bounded
  unfold ofBits
  simp only [Nat.pow_eq]
  -- An exponent of ones leaves no room for a fraction below this bound.
  split_ifs <;> first | exact FloatClass.noConfusion | omega

end FloatClass

namespace Double

theorem magnitudeBits_le {m : Nat} (significand : m < 2 ^ 53) (e : Int) :
    magnitudeBits m e ≤ 2047 * Nat.pow 2 52 := by
  unfold magnitudeBits
  simp only [Nat.pow_eq]
  split_ifs <;> omega

theorem isNaN_floatOfQuotient {den : Nat} (denominator : 0 < den) (negative : Bool) (num : Nat) :
    (floatOfQuotient negative num den).isNaN = false := by
  have bounded := magnitudeBits_le (nearestNat_lt denominator num) (nearestNat num den).2
  have fits : (magnitudeBits (nearestNat num den).1 (nearestNat num den).2 +
      if negative then Nat.pow 2 63 else 0) < 2 ^ 64 := by
    simp only [Nat.pow_eq] at bounded ⊢
    split <;> omega
  rw [Bool.eq_false_iff, ne_eq, FloatClass.isNaN_iff, floatOfQuotient, FloatClass.ofFloat_ofBits,
    UInt64.toNat_ofNat_of_lt' fits]
  exact FloatClass.ofBits_ne_notANumber bounded negative

theorem isNaN_floatOfInt (n : Int) : (floatOfInt n).isNaN = false :=
  isNaN_floatOfQuotient one_pos _ _

end Double

end SolrRequest
