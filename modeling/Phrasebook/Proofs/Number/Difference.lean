import Phrasebook.Number.Double

namespace Phrasebook.Number

/-!
# Signs of differences

A difference is rounded, but rounding leaves its sign alone: a positive magnitude is a whole number
of least units, and half of the units kept never reach down to zero.  So numbers may be compared by
the sign of their difference.

* `roundUnits_pos`: a positive magnitude stays positive.
* `Double.le_total`, `Double.le_trans`, `Double.le_antisymm`: the order of the finite numbers.
* `Double.sub_le_zero_iff`: a difference is at most zero just where the first number is at most the
  second.
-/

/-! ### Magnitudes -/

/-- An integer is rounded to itself. -/
theorem roundHalfEven_one (a : Nat) : roundHalfEven a 1 = a := by
  have hrest : a % 1 = 0 := Nat.mod_one a
  rw [roundHalfEven, hrest, if_pos (Or.inl (by decide)), Nat.div_one]

/-- A fraction is not rounded below its integral part. -/
theorem le_roundHalfEven (a b : Nat) : a / b ≤ roundHalfEven a b := by
  unfold roundHalfEven
  split <;> omega

theorem limit_pos : 0 < limit := by decide +kernel

/-- A positive magnitude stays positive. -/
theorem roundUnits_pos {n : Nat} (hn : 0 < n) : 0 < roundUnits n 1 := by
  have hpow : ∀ k, 0 < Nat.pow 2 k := fun k => Nat.two_pow_pos k
  rw [roundUnits, Nat.one_mul]
  refine Nat.mul_pos ?_ (hpow _)
  by_cases hexcess : excess n 1 = 0
  · -- nothing is rounded away
    have hone : Nat.pow 2 0 = 1 := rfl
    rw [hexcess, hone, roundHalfEven_one]
    exact hn
  · -- the bits that are cut off stand below the highest one
    have hlog : Nat.pow 2 (excess n 1) ≤ n := by
      have hle : excess n 1 ≤ n.log2 := by
        unfold excess precision at hexcess ⊢
        rw [Nat.div_one] at hexcess ⊢
        omega
      calc Nat.pow 2 (excess n 1) ≤ 2 ^ n.log2 := Nat.pow_le_pow_right (by decide) hle
        _ ≤ n := Nat.log2_self_le (by omega)
    have hkept : 0 < n / Nat.pow 2 (excess n 1) := Nat.div_pos hlog (hpow _)
    exact Nat.lt_of_lt_of_le hkept (le_roundHalfEven n _)

/-- Zero is rounded to zero. -/
theorem roundUnits_zero : roundUnits 0 1 = 0 := by
  have hexcess : excess 0 1 = 0 := rfl
  rw [roundUnits, hexcess]
  rfl

namespace Double

/-! ### Finite numbers -/

/-- A finite number is one with units. -/
theorem isFinite_iff {x : Double} : x.isFinite = true ↔ ∃ u h, x = .finite u h := by
  cases x with
  | nan => simp [isFinite]
  | infinity negative => simp [isFinite]
  | finite u h => exact iff_of_true rfl ⟨u, h, rfl⟩

/-- Finite numbers with the same units are the same. -/
theorem finite_congr {u v : Int} (h : u = v) (hu : Representable u.natAbs) :
    ∃ hv, finite u hu = .finite v hv := by
  subst h
  exact ⟨hu, rfl⟩

theorem le_total {x y : Double} (hx : x.isFinite = true) (hy : y.isFinite = true) :
    x ≤ y ∨ y ≤ x := by
  obtain ⟨a, ha, rfl⟩ := isFinite_iff.1 hx
  obtain ⟨b, hb, rfl⟩ := isFinite_iff.1 hy
  rw [finite_le_finite, finite_le_finite]
  omega

theorem le_trans {x y z : Double} (hx : x.isFinite = true) (hy : y.isFinite = true)
    (hz : z.isFinite = true) (hxy : x ≤ y) (hyz : y ≤ z) : x ≤ z := by
  obtain ⟨a, ha, rfl⟩ := isFinite_iff.1 hx
  obtain ⟨b, hb, rfl⟩ := isFinite_iff.1 hy
  obtain ⟨c, hc, rfl⟩ := isFinite_iff.1 hz
  rw [finite_le_finite] at hxy hyz ⊢
  omega

theorem le_antisymm {x y : Double} (hx : x.isFinite = true) (hy : y.isFinite = true) (hxy : x ≤ y)
    (hyx : y ≤ x) : x = y := by
  obtain ⟨a, ha, rfl⟩ := isFinite_iff.1 hx
  obtain ⟨b, hb, rfl⟩ := isFinite_iff.1 hy
  rw [finite_le_finite] at hxy hyx
  obtain rfl : a = b := by omega
  rfl

/-- A number is below another one just where that one is not at most it. -/
theorem lt_iff_not_le {x y : Double} (hx : x.isFinite = true) (hy : y.isFinite = true) :
    x.lt y = true ↔ ¬ y ≤ x := by
  have hle : le x y = true ↔ x ≤ y := Iff.rfl
  have hge : le y x = true ↔ y ≤ x := Iff.rfl
  rw [lt, Bool.and_eq_true, Bool.not_eq_true', ← Bool.not_eq_true, hle, hge]
  exact ⟨fun h => h.2, fun h => ⟨(le_total hx hy).resolve_right h, h⟩⟩

/-! ### Differences -/

/-- Without a magnitude there is no sign either. -/
theorem ofUnits_zero (negative : Bool) : ∃ h, ofUnits negative 0 1 = .finite 0 h := by
  have hsmall : roundUnits 0 1 < limit := by
    rw [roundUnits_zero]
    exact limit_pos
  rw [ofUnits, dif_pos Nat.one_pos, dif_pos hsmall]
  cases negative with
  | true => exact finite_congr (by rw [roundUnits_zero]; rfl) _
  | false => exact finite_congr (by rw [roundUnits_zero]; rfl) _

theorem zero_eq : ∃ h, zero = .finite 0 h := by
  have hnone : Int.natAbs 0 * Nat.pow 2 scale = 0 := by rw [Int.natAbs_zero, Nat.zero_mul]
  rw [zero, ofInt, ofRatio, hnone]
  exact ofUnits_zero _

/-- A magnitude with a sign is at most zero just where it is zero or the sign is a minus. -/
theorem ofUnits_le_zero_iff (negative : Bool) (n : Nat) :
    ofUnits negative n 1 ≤ zero ↔ negative = true ∨ n = 0 := by
  obtain ⟨hzero, heq⟩ := zero_eq
  rcases Nat.eq_zero_or_pos n with rfl | hn
  · obtain ⟨h, hnone⟩ := ofUnits_zero negative
    rw [heq, hnone, finite_le_finite]
    exact iff_of_true (Int.le_refl 0) (Or.inr rfl)
  · -- the magnitude that is kept is positive, so the sign decides
    have hpos := roundUnits_pos hn
    have hne : n ≠ 0 := by omega
    rw [heq, ofUnits, dif_pos Nat.one_pos, or_iff_left hne]
    split
    · cases negative with
      | true => exact iff_of_true ((finite_le_finite _ _).2 (by omega)) rfl
      | false =>
        refine iff_of_false (fun hle => ?_) Bool.false_ne_true
        have hunits : (roundUnits n 1 : Int) ≤ 0 := (finite_le_finite _ _).1 hle
        omega
    · cases negative with
      | true => exact iff_of_true rfl rfl
      | false => exact iff_of_false Bool.false_ne_true Bool.false_ne_true

/-- A difference of finite numbers is at most zero just where the first is at most the second. -/
theorem sub_le_zero_iff {x y : Double} (hx : x.isFinite = true) (hy : y.isFinite = true) :
    x.sub y ≤ zero ↔ x ≤ y := by
  obtain ⟨a, ha, rfl⟩ := isFinite_iff.1 hx
  obtain ⟨b, hb, rfl⟩ := isFinite_iff.1 hy
  rw [sub, ofUnits_le_zero_iff, decide_eq_true_eq, finite_le_finite]
  omega

end Double

end Phrasebook.Number
