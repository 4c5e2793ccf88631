namespace Phrasebook.Number

/-!
# Double precision

Binary floating-point numbers with 53 significant bits, as exact multiples of the least positive
one, `2 ^ (-1074)`.  A zero has no sign here: nothing the library writes or compares shows one.

* `Double`: NaN, the two infinities, and the finite numbers.
* `Double.ofRatio`: the nearest number to a quotient, a half going to the even neighbour.
* `Double.ofInt`, `Double.sub`, `Double.div`: what is needed of arithmetic, each exact and then
  rounded once.
* `Double.le`, `Double.lt`: the order, in which NaN is comparable with nothing.
-/

/-- The number of significant bits. -/
def precision : Nat := 53

/-- One is `2 ^ scale` units. -/
def scale : Nat := 1074

/-- The first power of two that is out of range, in units. -/
def limit : Nat := Nat.pow 2 2098

/-- A magnitude in units that has at most 53 significant bits and is in range. -/
def Representable (n : Nat) : Prop :=
  (∃ m k, m ≤ Nat.pow 2 precision ∧ n = m * Nat.pow 2 k) ∧ n < limit

/-- The whole number nearest to a quotient, a half going to the even one. -/
def roundHalfEven (a b : Nat) : Nat :=
  if 2 * (a % b) < b ∨ (2 * (a % b) = b ∧ a / b % 2 = 0) then a / b else a / b + 1

/-- How many bits of the quotient `a / b` are too many to keep. -/
def excess (a b : Nat) : Nat :=
  (a / b).log2 + 1 - precision

/-- A quotient rounded to at most 53 significant bits. -/
def roundUnits (a b : Nat) : Nat :=
  roundHalfEven a (b * Nat.pow 2 (excess a b)) * Nat.pow 2 (excess a b)

/-! ### Rounding gives representable magnitudes -/

/-- A fraction below an integer is not rounded above it. -/
theorem roundHalfEven_le_of_lt {a b n : Nat} (h : a < n * b) :
    roundHalfEven a b ≤ n := by
  have hq : a / b < n := Nat.div_lt_of_lt_mul (by rwa [Nat.mul_comm])
  unfold roundHalfEven
  split <;> omega

/-- Without its excess, a fraction has no more than the bits that are kept. -/
theorem lt_two_pow_mul (a : Nat) {b : Nat} (hb : 0 < b) :
    a < Nat.pow 2 precision * (b * Nat.pow 2 (excess a b)) := by
  simp only [Nat.pow_eq]
  have hlog : a / b < 2 ^ ((a / b).log2 + 1) := Nat.lt_log2_self
  have hpow : 2 ^ ((a / b).log2 + 1) ≤ 2 ^ (precision + excess a b) :=
    Nat.pow_le_pow_right (by decide) (by unfold excess; omega)
  have hlt : a < b * 2 ^ (precision + excess a b) :=
    (Nat.div_lt_iff_lt_mul hb).1 (Nat.lt_of_lt_of_le hlog hpow) |> fun h => by
      rwa [Nat.mul_comm] at h
  calc a < b * 2 ^ (precision + excess a b) := hlt
    _ = 2 ^ precision * (b * 2 ^ excess a b) := by rw [Nat.pow_add, Nat.mul_left_comm]

/-- What a fraction is rounded to has no more than the bits that are kept. -/
theorem roundUnits_eq (a : Nat) {b : Nat} (hb : 0 < b) :
    ∃ m k, m ≤ Nat.pow 2 precision ∧ roundUnits a b = m * Nat.pow 2 k :=
  ⟨_, _, roundHalfEven_le_of_lt (lt_two_pow_mul a hb), rfl⟩

/-! ### The numbers -/

/-- A number of double precision. -/
inductive Double
  /-- the result of an operation without one -/
  | nan
  /-- the two ends of the order -/
  | infinity (negative : Bool)
  /-- an exact multiple of `2 ^ (-1074)` -/
  | finite (units : Int) (representable : Representable units.natAbs)
  deriving DecidableEq

namespace Double

/-- The number nearest to `a / b` units. -/
def ofUnits (negative : Bool) (a : Nat) (b : Nat) : Double :=
  if hb : 0 < b then
    if h : roundUnits a b < limit then
      if negative then
        .finite (-(roundUnits a b : Int)) (by rw [Int.natAbs_neg]; exact ⟨roundUnits_eq a hb, h⟩)
      else .finite (roundUnits a b) ⟨roundUnits_eq a hb, h⟩
    else .infinity negative
  else .nan

/-- The number nearest to `a / b`. -/
def ofRatio (negative : Bool) (a b : Nat) : Double :=
  ofUnits negative (a * Nat.pow 2 scale) b

/-- The number nearest to an integer. -/
def ofInt (n : Int) : Double :=
  ofRatio (n < 0) n.natAbs 1

/-- Zero. -/
def zero : Double :=
  ofInt 0

/-- Whether a number is finite. -/
def isFinite : Double → Bool
  | finite _ _ => true
  | _ => false

/-- The integer that a number is, where it is one. -/
def toInt? : Double → Option Int
  | finite u _ => if u % Nat.pow 2 scale = 0 then some (u / Nat.pow 2 scale) else none
  | _ => none

/-- The largest integer below which every integer is a number. -/
def maxSafe : Nat := Nat.pow 2 53 - 1

/-- The integer that a number is, where it is one of at most 53 bits. -/
def toSafeInt? (x : Double) : Option Int :=
  x.toInt?.filter fun n => n.natAbs ≤ maxSafe

/-- The order; NaN is neither below nor above anything. -/
def le : Double → Double → Bool
  | nan, _ | _, nan => false
  | infinity true, _ | _, infinity false => true
  | infinity false, _ | _, infinity true => false
  | finite a _, finite b _ => decide (a ≤ b)

/-- The strict order. -/
def lt (x y : Double) : Bool :=
  le x y && !le y x

/-- The difference, rounded once. -/
def sub : Double → Double → Double
  | nan, _ | _, nan => nan
  | infinity a, infinity b => if a = b then nan else infinity a
  | infinity a, finite _ _ => infinity a
  | finite _ _, infinity b => infinity !b
  | finite a _, finite b _ => ofUnits (a < b) (a - b).natAbs 1

/-- The quotient by a whole number, rounded once. -/
def div (x : Double) (n : Nat) : Double :=
  match x with
  | nan => nan
  | infinity a => infinity a
  | finite a _ => ofUnits (a < 0) a.natAbs n

instance : LE Double := ⟨fun x y => le x y = true⟩

instance (x y : Double) : Decidable (x ≤ y) :=
  inferInstanceAs (Decidable (le x y = true))

instance : Inhabited Double := ⟨zero⟩

/-- Finite numbers compare as their units do. -/
theorem finite_le_finite {a b : Int} (ha hb) : finite a ha ≤ finite b hb ↔ a ≤ b := by
  change le _ _ = true ↔ _
  simp [le]

end Double

end Phrasebook.Number
