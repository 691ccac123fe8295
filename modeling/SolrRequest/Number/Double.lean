/-!
# Double precision

The finite doubles as a mantissa times a power of two, and the double nearest to a quotient. What
is computed in double precision is an exact quotient that is then rounded once, a tie to the even
mantissa.
-/

namespace SolrRequest

/-- The value `mantissa * 2 ^ exponent`. -/
structure Double where
  mantissa : Int
  exponent : Int
deriving DecidableEq

namespace Double

def leastExponent : Int := -1074

/-- The quotient rounded to the nearest integer, a half to the even one. -/
def roundHalfEven (num den : Nat) : Nat :=
  let q := num / den
  let r := num % den
  if 2 * r < den then q else if den < 2 * r then q + 1 else q + q % 2

theorem roundHalfEven_bounds (num den : Nat) :
    num / den ≤ roundHalfEven num den ∧ roundHalfEven num den ≤ num / den + 1 := by
  unfold roundHalfEven
  dsimp only
  split
  · omega
  · split <;> omega

/-- The greatest `k` with `2 ^ k ≤ num / den`. -/
def binaryOrder (num den : Nat) : Int :=
  let k : Int := (num.log2 : Int) - den.log2
  if den * Nat.pow 2 k.toNat ≤ num * Nat.pow 2 (-k).toNat then k else k - 1

/-- The double nearest to a quotient of natural numbers, with no bound above. -/
def nearestNat (num den : Nat) : Nat × Int :=
  if num = 0 then (0, 0)
  else
    let e := max (binaryOrder num den - 52) leastExponent
    let m := roundHalfEven (num * Nat.pow 2 (-e).toNat) (den * Nat.pow 2 e.toNat)
    if m = Nat.pow 2 53 then (Nat.pow 2 52, e + 1) else (m, e)

def nearest (num : Int) (den : Nat) : Double :=
  let (m, e) := nearestNat num.natAbs den
  ⟨if num < 0 then -(m : Int) else m, e⟩

def ratio (x : Double) : Int × Nat :=
  (x.mantissa * (Nat.pow 2 x.exponent.toNat : Int), Nat.pow 2 (-x.exponent).toNat)

def divNat (x : Double) (n : Nat) : Double :=
  nearest x.ratio.1 (x.ratio.2 * n)

def mulNat (x : Double) (n : Nat) : Double :=
  nearest (x.ratio.1 * n) x.ratio.2

/-- The integer part, toward zero. -/
def truncate (x : Double) : Int :=
  x.ratio.1.tdiv x.ratio.2

/-- What the integer part leaves; it has the sign of the value. -/
def fraction (x : Double) : Double :=
  ⟨x.ratio.1.tmod (x.ratio.2 : Int), x.exponent⟩

def isInteger (x : Double) : Bool :=
  x.ratio.1 % (x.ratio.2 : Int) == 0

/-- The nearest integer, a half to the even one. -/
def round (x : Double) : Int :=
  let n := roundHalfEven x.ratio.1.natAbs x.ratio.2
  if x.ratio.1 < 0 then -(n : Int) else n

/-- Whether the magnitude passes the greatest finite double. -/
def overflows (x : Double) : Bool :=
  Nat.pow 2 1024 * x.ratio.2 ≤ x.ratio.1.natAbs

end Double

inductive FloatClass
  | finite (negative : Bool) (mantissa : Nat) (exponent : Int)
  | infinite (negative : Bool)
  | notANumber

namespace FloatClass

def ofBits (bits : Nat) : FloatClass :=
  let negative := bits / Nat.pow 2 63 % 2 == 1
  let biased : Nat := bits / Nat.pow 2 52 % Nat.pow 2 11
  let fraction := bits % Nat.pow 2 52
  if biased = 2047 then (if fraction = 0 then .infinite negative else .notANumber)
  else if biased = 0 then .finite negative fraction Double.leastExponent
  else .finite negative (Nat.pow 2 52 + fraction) ((biased : Int) - 1075)

def ofFloat (x : Float) : FloatClass :=
  ofBits x.toBits.toNat

end FloatClass

namespace Double

def ofFloat? (x : Float) : Option Double :=
  match FloatClass.ofFloat x with
  | .finite negative m e => some ⟨if negative then -(m : Int) else m, e⟩
  | _ => none

/-- The bits of a magnitude in the form that `nearestNat` gives, or those of infinity. -/
def magnitudeBits (m : Nat) (e : Int) : Nat :=
  if m < Nat.pow 2 52 then m
  else if 971 < e then 2047 * Nat.pow 2 52
  else (e + 1075).toNat * Nat.pow 2 52 + (m - Nat.pow 2 52)

/-- The float nearest to a quotient with a sign, which zero keeps; infinite on overflow. -/
def floatOfQuotient (negative : Bool) (num den : Nat) : Float :=
  let (m, e) := nearestNat num den
  let bits := magnitudeBits m e + if negative then Nat.pow 2 63 else 0
  Float.ofBits bits.toUInt64

def floatOfInt (n : Int) : Float :=
  floatOfQuotient (n < 0) n.natAbs 1

def nanFloat : Float :=
  Float.ofBits 0x7ff8000000000000

def infiniteFloat (negative : Bool) : Float :=
  Float.ofBits (if negative then 0xfff0000000000000 else 0x7ff0000000000000)

end Double

end SolrRequest
