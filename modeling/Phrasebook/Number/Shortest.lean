import Phrasebook.Number.Double

namespace Phrasebook.Number

/-!
# Shortest decimals

The decimal with the fewest digits that reads back as a given number; of several, the nearest; of
two equally near, the even one.

* `Decimal`: a number `digits * 10 ^ exponent`.
* `Interval`: the reals that round to a number.
* `shortest`: the shortest decimal of a magnitude.
-/

/-- A decimal `digits * 10 ^ exponent`. -/
structure Decimal where
  digits : Nat
  exponent : Int
  deriving DecidableEq, Repr

/-- The reals that round to a magnitude, in quarters of a unit. -/
structure Interval where
  low : Nat
  value : Nat
  high : Nat
  /-- whether the two ends round to the magnitude as well -/
  closed : Bool

/-- The interval of a magnitude of `n` units.  Below a power of two the numbers stand twice as
    close, so there the interval reaches down half as far. -/
def Interval.of (n : Nat) : Interval :=
  let k := n.log2 + 1 - precision
  let m := n / Nat.pow 2 k
  let step := Nat.pow 2 k
  { low := 4 * n - (if m == Nat.pow 2 (precision - 1) && k != 0 then step else 2 * step)
    value := 4 * n
    high := 4 * n + 2 * step
    closed := m % 2 == 0 }

/-- Whether the interval holds `c * 10 ^ e`, where `a` is `c * 10 ^ e` in quarters of a unit, over
    the denominator `d`. -/
def Interval.holds (i : Interval) (a d : Nat) : Bool :=
  if i.closed then decide (i.low * d ≤ a) && decide (a ≤ i.high * d)
  else decide (i.low * d < a) && decide (a < i.high * d)

/-- The power `10 ^ e` in quarters of a unit, as a fraction. -/
def gridStep (e : Int) : Nat × Nat :=
  (Nat.pow 10 e.toNat * Nat.pow 2 (scale + 2), Nat.pow 10 (-e).toNat)

/-- The decimal of the grid `10 ^ e` that lies in the interval nearest to its value, if one
    does. -/
def Interval.nearest? (i : Interval) (e : Int) : Option Decimal :=
  let (a, d) := gridStep e
  let c := i.value * d / a
  let below := i.holds (c * a) d
  let above := i.holds ((c + 1) * a) d
  let gapBelow := i.value * d - c * a
  let gapAbove := (c + 1) * a - i.value * d
  if below && (!above || gapBelow < gapAbove || (gapBelow == gapAbove && c % 2 == 0)) then
    some ⟨c, e⟩
  else if above then some ⟨c + 1, e⟩
  else none

/-- The exponent of the leading decimal digit of a magnitude of `n` units: the logarithm of a
    power of two is estimated and then corrected by one where it falls short. -/
def leadingExponent (n : Nat) : Int :=
  let estimate := (((n.log2 : Int) - scale) * 30103) / 100000
  let (a, d) := gridStep (estimate + 1)
  if a ≤ 4 * n * d then estimate + 1 else estimate

/-- A decimal without the zeros at its end. -/
def Decimal.strip (fuel : Nat) (x : Decimal) : Decimal :=
  match fuel with
  | 0 => x
  | fuel + 1 =>
    if x.digits != 0 && x.digits % 10 == 0 then strip fuel ⟨x.digits / 10, x.exponent + 1⟩ else x

/-- The most digits that telling any two numbers apart can take. -/
def maxDigits : Nat := 17

/-- The shortest decimal of a magnitude of `n` units. -/
def shortest (n : Nat) : Decimal :=
  let i := Interval.of n
  let e := leadingExponent n
  let found := (List.range maxDigits).findSome? fun k : Nat => i.nearest? (e - k)
  (found.getD ⟨0, 0⟩).strip maxDigits

end Phrasebook.Number
