import SolrRequest.Number.Double

/-!
# Shortest decimal digits

The fewest decimal digits that read back as a given double. For one digit, two digits and so on,
the two points of that decimal grid next to the value are tried; the first grid with a point in
the interval of numbers that round to the value wins, and of two points the nearer.
-/

namespace SolrRequest.Shortest

/-- The value `0.d₁d₂… * 10 ^ point`. -/
structure Digits where
  digits : List Nat
  point : Int
deriving DecidableEq

/-- The numbers that round to a double, over one denominator: the ends, the value between them and
whether the ends belong to it. -/
structure Interval where
  low : Nat
  value : Nat
  high : Nat
  den : Nat
  closed : Bool

/-- The ends are half way to the neighbours; below a power of two the neighbour is twice as near. -/
def Interval.ofDouble (m : Nat) (e : Int) : Interval :=
  let narrow := m = Nat.pow 2 52 ∧ Double.leastExponent < e
  let up := Nat.pow 2 e.toNat
  { low := (if narrow then 4 * m - 1 else 4 * m - 2) * up
    value := 4 * m * up
    high := (4 * m + 2) * up
    den := 4 * Nat.pow 2 (-e).toNat
    closed := m % 2 = 0 }

/-- The number of decimal digits before the point, not positive for a value below a tenth. -/
def decimalPoint (num den : Nat) : Int :=
  let guess : Int := ((num.log2 : Int) - den.log2) * 30103 / 100000 - 1
  let reaches (k : Int) : Bool := den * Nat.pow 10 k.toNat ≤ num * Nat.pow 10 (-k).toNat
  if !reaches guess then guess
  else if !reaches (guess + 1) then guess + 1
  else if !reaches (guess + 2) then guess + 2
  else guess + 3

/-- Whether `n` units of `10 ^ unit` lie in the interval. -/
def Interval.holds (i : Interval) (n : Nat) (unit : Int) : Bool :=
  let x := n * Nat.pow 10 unit.toNat * i.den
  let low := i.low * Nat.pow 10 (-unit).toNat
  let high := i.high * Nat.pow 10 (-unit).toNat
  if i.closed then low ≤ x && x ≤ high else low < x && x < high

/-- The point of the grid with the given unit that lies in the interval, the nearer one of two. -/
def Interval.onGrid? (i : Interval) (unit : Int) : Option Nat :=
  let num := i.value * Nat.pow 10 (-unit).toNat
  let den := i.den * Nat.pow 10 unit.toNat
  let below := num / den
  let rest := num % den
  let nearBelow := 2 * rest < den ∨ (2 * rest = den ∧ below % 2 = 0)
  match i.holds below unit, i.holds (below + 1) unit with
  | true, true => some (if nearBelow then below else below + 1)
  | true, false => some below
  | false, true => some (below + 1)
  | false, false => none

/-- The grid point with the fewest digits, from `count` digits on, and its unit. -/
def Interval.search (i : Interval) (point : Int) : (fuel count : Nat) → Nat × Int
  | 0, count => (i.value * Nat.pow 10 ((count : Int) - point).toNat / i.den, point - count)
  | fuel + 1, count =>
    match i.onGrid? (point - count) with
    | some n => (n, point - count)
    | none => i.search point fuel (count + 1)

def natDigits (n : Nat) (tail : List Nat) : List Nat :=
  if n < 10 then n :: tail else natDigits (n / 10) (n % 10 :: tail)

def withoutFinalZeros (ds : List Nat) : List Nat :=
  (ds.reverse.dropWhile (· == 0)).reverse

/-- The shortest digits of a positive double; seventeen always suffice. -/
def ofDouble (m : Nat) (e : Int) : Digits :=
  let i := Interval.ofDouble m e
  let (n, unit) := i.search (decimalPoint i.value i.den) 17 1
  let ds := natDigits n []
  ⟨withoutFinalZeros ds, unit + ds.length⟩

end SolrRequest.Shortest
