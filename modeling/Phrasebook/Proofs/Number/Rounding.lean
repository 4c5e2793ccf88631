import Phrasebook.Proofs.Number.Integers

namespace Phrasebook.Number

/-!
# Integers of more than 53 bits

An integer of more than 53 bits may be rounded, and a very large one becomes infinite, but the
highest bit is always among those that are kept.  So no such integer comes down to one of at most 53
bits, and each compares with those as it did before it was rounded.

* `two_pow_log2_le_roundUnits`: rounding keeps the highest bit.
* `Double.ofInt_of_above`, `Double.ofInt_of_below`: a large integer is farther out than every
  integer of at most 53 bits.
* `Double.ofInt_le_ofInt_iff`, `Double.ofInt_le_ofInt_iff'`, `Double.ofInt_eq_ofInt_iff`: how an
  integer of any size compares with one of at most 53 bits.
* `Double.toSafeInt?_ofInt`: which integers come back from their numbers.
-/

/-! ### Magnitudes -/

/-- Rounding keeps the highest bit. -/
theorem two_pow_log2_le_roundUnits {n : Nat} (hn : n ≠ 0) : 2 ^ n.log2 ≤ roundUnits n 1 := by
  have hle : excess n 1 ≤ n.log2 := by
    unfold excess precision
    rw [Nat.div_one]
    omega
  rw [roundUnits, Nat.one_mul]
  generalize excess n 1 = e at hle ⊢
  obtain ⟨k, hk⟩ := Nat.exists_eq_add_of_le hle
  have hsplit : 2 ^ n.log2 = 2 ^ k * 2 ^ e := by rw [hk, Nat.add_comm, Nat.pow_add]
  -- the highest bit stands above the bits that are cut off
  have hkept : 2 ^ k ≤ n / Nat.pow 2 e := by
    apply (Nat.le_div_iff_mul_le (Nat.two_pow_pos e)).2
    show 2 ^ k * 2 ^ e ≤ n
    rw [← hsplit]
    exact Nat.log2_self_le hn
  rw [hsplit]
  exact Nat.mul_le_mul_right _ (Nat.le_trans hkept (le_roundHalfEven n _))

/-- A magnitude of more than 53 bits stays above every one of at most 53 bits. -/
theorem lt_roundUnits_of_large {m : Nat} (hm : Double.maxSafe < m) :
    Double.maxSafe * Nat.pow 2 scale < roundUnits (m * Nat.pow 2 scale) 1 := by
  have hne : m ≠ 0 := by omega
  have hpos : 0 < Nat.pow 2 scale := Int.natCast_pos.1 Double.one_pos_units
  have hlog : 53 ≤ m.log2 := by
    apply (Nat.le_log2 hne).2
    have hmax : Double.maxSafe = 2 ^ 53 - 1 := rfl
    omega
  have hsplit : ∀ k, 2 ^ (m.log2 + k) = 2 ^ m.log2 * Nat.pow 2 k := fun k => Nat.pow_add 2 _ k
  have hbit := two_pow_log2_le_roundUnits (Nat.mul_ne_zero hne (Nat.ne_of_gt hpos))
  rw [log2_mul_two_pow hne, hsplit] at hbit
  have hlow : Double.maxSafe < 2 ^ m.log2 :=
    Nat.lt_of_lt_of_le (by decide : Double.maxSafe < 2 ^ 53) (Nat.pow_le_pow_right (by decide) hlog)
  exact Nat.lt_of_lt_of_le (Nat.mul_lt_mul_of_pos_right hlow hpos) hbit

namespace Double

/-! ### How large integers compare -/

variable {b n : Int}

/-- Safe integers are finite numbers. -/
theorem isFinite_ofInt (hb : b.natAbs ≤ maxSafe) : (ofInt b).isFinite = true := by
  obtain ⟨h, heq⟩ := ofInt_eq_finite hb
  rw [heq]
  rfl

/-- A magnitude is infinite or finite, with the sign that is put on it. -/
theorem ofUnits_one (negative : Bool) (a : Nat) :
    ofUnits negative a 1 = .infinity negative ∨
      ∃ h, ofUnits negative a 1
        = .finite (if negative then -(roundUnits a 1 : Int) else roundUnits a 1) h := by
  rw [ofUnits, dif_pos Nat.one_pos]
  split
  · cases negative with
    | true => exact Or.inr (finite_congr rfl _)
    | false => exact Or.inr (finite_congr rfl _)
  · exact Or.inl rfl

/-- The number of a large positive integer is above that of every integer of at most 53 bits. -/
theorem ofInt_of_above (hb : b.natAbs ≤ maxSafe) (hn : (maxSafe : Int) < n) :
    ofInt b ≤ ofInt n ∧ ¬ ofInt n ≤ ofInt b := by
  obtain ⟨h, hfinite⟩ := ofInt_eq_finite hb
  have hlarge := lt_roundUnits_of_large (m := n.natAbs) (by omega)
  have hsign : decide (n < 0) = false := decide_eq_false (by omega)
  have hunits : b * Nat.pow 2 scale ≤ (maxSafe * Nat.pow 2 scale : Nat) := by
    rw [Int.natCast_mul]
    exact Int.mul_le_mul_of_nonneg_right (by omega) (Int.le_of_lt one_pos_units)
  rw [hfinite, ofInt, ofRatio, hsign]
  rcases ofUnits_one false (n.natAbs * Nat.pow 2 scale) with hrounded | ⟨h', hrounded⟩
  · rw [hrounded]
    exact ⟨rfl, Bool.false_ne_true⟩
  · rw [hrounded, finite_le_finite, finite_le_finite, if_neg Bool.false_ne_true]
    omega

/-- The number of a large negative integer is below that of every integer of at most 53 bits. -/
theorem ofInt_of_below (hb : b.natAbs ≤ maxSafe) (hn : n < -(maxSafe : Int)) :
    ofInt n ≤ ofInt b ∧ ¬ ofInt b ≤ ofInt n := by
  obtain ⟨h, hfinite⟩ := ofInt_eq_finite hb
  have hlarge := lt_roundUnits_of_large (m := n.natAbs) (by omega)
  have hsign : decide (n < 0) = true := decide_eq_true (by omega)
  have hunits : -(maxSafe * Nat.pow 2 scale : Nat) ≤ b * Nat.pow 2 scale := by
    rw [Int.natCast_mul, ← Int.neg_mul]
    exact Int.mul_le_mul_of_nonneg_right (by omega) (Int.le_of_lt one_pos_units)
  rw [hfinite, ofInt, ofRatio, hsign]
  rcases ofUnits_one true (n.natAbs * Nat.pow 2 scale) with hrounded | ⟨h', hrounded⟩
  · rw [hrounded]
    exact ⟨rfl, Bool.false_ne_true⟩
  · rw [hrounded, finite_le_finite, finite_le_finite, if_pos rfl]
    omega

/-- Every integer is at most 53 bits long, or above all that are, or below all that are. -/
theorem size_cases (n : Int) :
    n.natAbs ≤ maxSafe ∨ (maxSafe : Int) < n ∨ n < -(maxSafe : Int) := by
  omega

/-- Integers of at most 53 bits are in their order. -/
theorem ofInt_le_ofInt_of_safe (hb : b.natAbs ≤ maxSafe) (hn : n.natAbs ≤ maxSafe) :
    ofInt b ≤ ofInt n ↔ b ≤ n := by
  obtain ⟨h, hfinite⟩ := ofInt_eq_finite hb
  obtain ⟨h', hfinite'⟩ := ofInt_eq_finite hn
  rw [hfinite, hfinite', finite_le_finite]
  exact Int.mul_le_mul_right one_pos_units

/-- An integer of any size is at least one of at most 53 bits just where its number is. -/
theorem ofInt_le_ofInt_iff (hb : b.natAbs ≤ maxSafe) (n : Int) : ofInt b ≤ ofInt n ↔ b ≤ n := by
  rcases size_cases n with hn | hn | hn
  · exact ofInt_le_ofInt_of_safe hb hn
  · exact iff_of_true (ofInt_of_above hb hn).1 (by omega)
  · exact iff_of_false (ofInt_of_below hb hn).2 (by omega)

/-- An integer of any size is at most one of at most 53 bits just where its number is. -/
theorem ofInt_le_ofInt_iff' (hb : b.natAbs ≤ maxSafe) (n : Int) : ofInt n ≤ ofInt b ↔ n ≤ b := by
  rcases size_cases n with hn | hn | hn
  · exact ofInt_le_ofInt_of_safe hn hb
  · exact iff_of_false (ofInt_of_above hb hn).2 (by omega)
  · exact iff_of_true (ofInt_of_below hb hn).1 (by omega)

/-- No other integer is taken for a safe one. -/
theorem ofInt_eq_ofInt_iff (hb : b.natAbs ≤ maxSafe) (n : Int) : ofInt n = ofInt b ↔ n = b := by
  refine ⟨fun h => ?_, congrArg ofInt⟩
  have hself : ofInt b ≤ ofInt b := (ofInt_le_ofInt_iff hb b).2 (Int.le_refl b)
  have hle : n ≤ b := (ofInt_le_ofInt_iff' hb n).1 (by rwa [h])
  have hge : b ≤ n := (ofInt_le_ofInt_iff hb n).1 (by rwa [h])
  omega

/-- An integer comes back from its number, if it is one of at most 53 bits, and else none does. -/
theorem toSafeInt?_ofInt (n : Int) :
    (ofInt n).toSafeInt? = if n.natAbs ≤ maxSafe then some n else none := by
  split
  · next hn =>
    rw [toSafeInt?, toInt?_ofInt hn, Option.filter_some, if_pos (decide_eq_true hn)]
  · next hn =>
    rw [toSafeInt?, Option.filter_eq_none_iff]
    intro k hk
    rw [decide_eq_true_eq]
    intro hsafe
    -- it would be the number of a small integer
    have heq : n = k := (ofInt_eq_ofInt_iff hsafe n).1 ((toInt?_eq_some_iff hsafe _).1 hk)
    exact hn (heq ▸ hsafe)

end Double

end Phrasebook.Number
