import Phrasebook.Proofs.Number.Rounding
import Mathlib.Data.Nat.Factorization.Basic

namespace Phrasebook.Number

/-!
# Whole numbers as they are shown

An integer of at most 53 bits is shown in its digits.  The numbers that round to it are less than
one away from it, so of each grid `10 ^ e` with a whole step the integer itself is the only one that
can be among them.  The shortest decimal therefore is the integer without the zeros at its end, and
the layout puts these back.

* `Interval.Around`: the interval of a whole number holds no other one.
* `leadingExponent_integer`: the logarithm that is estimated is the right one.
* `shortest_integer`: the shortest decimal of a whole number.
* `Double.text_ofInt`: the text of a whole number.
-/

/-! ### The interval of a whole number -/

/-- An interval with a whole number as its value, and with no other one between its ends. -/
structure Interval.Around (i : Interval) (m : Nat) : Prop where
  value : i.value = m * Nat.pow 2 (scale + 2)
  low_lt : i.low < i.value
  lt_high : i.value < i.high
  lt_low_add : i.value < i.low + Nat.pow 2 (scale + 2)
  high_lt : i.high < i.value + Nat.pow 2 (scale + 2)

/-- One has two more zero bits in quarters of a unit. -/
theorem quarters_eq : Nat.pow 2 (scale + 2) = 4 * Nat.pow 2 scale := by
  generalize scale = s
  exact (Nat.pow_add 2 s 2).trans (Nat.mul_comm _ _)

theorem quarters_pos : 0 < Nat.pow 2 (scale + 2) := by
  have hpow : ∀ k, 0 < Nat.pow 2 k := fun k => Nat.two_pow_pos k
  exact hpow _

/-- An integer of at most 53 bits has its bits above those of a fraction. -/
theorem log2_lt_of_safe {m : Nat} (hm : m ≠ 0) (hsafe : m ≤ Double.maxSafe) : m.log2 < 53 := by
  apply (Nat.log2_lt hm).2
  have hmax : Double.maxSafe = 2 ^ 53 - 1 := rfl
  omega

/-- The interval of a magnitude reaches up two steps, and down no farther. -/
theorem interval_bounds {n step : Nat} (hn : 0 < n)
    (hstep : Nat.pow 2 (n.log2 + 1 - precision) = step) :
    (Interval.of n).low < 4 * n ∧ 4 * n ≤ (Interval.of n).low + 2 * step ∧
      (Interval.of n).high = 4 * n + 2 * step := by
  have hpos : 0 < Nat.pow 2 (n.log2 + 1 - precision) := Nat.two_pow_pos _
  simp only [Interval.of, hstep] at hpos ⊢
  refine ⟨?_, ?_, trivial⟩ <;> split <;> omega

/-- No other whole number rounds to an integer of at most 53 bits. -/
theorem around_integer {m : Nat} (hm : m ≠ 0) (hsafe : m ≤ Double.maxSafe) :
    (Interval.of (m * Nat.pow 2 scale)).Around m := by
  have hpow : ∀ k, 0 < Nat.pow 2 k := fun k => Nat.two_pow_pos k
  have hbits := log2_lt_of_safe hm hsafe
  -- a step between numbers of that size is at most one
  have hone : Nat.pow 2 ((m * Nat.pow 2 scale).log2 + 1 - precision) ≤ Nat.pow 2 scale := by
    apply Nat.pow_le_pow_right (by decide)
    rw [log2_mul_two_pow hm]
    unfold precision
    omega
  have hstep := hpow ((m * Nat.pow 2 scale).log2 + 1 - precision)
  have hunits : 0 < m * Nat.pow 2 scale := Nat.mul_pos (Nat.pos_of_ne_zero hm) (hpow scale)
  obtain ⟨hlow, hnear, hhigh⟩ := interval_bounds hunits rfl
  have hvalue : m * Nat.pow 2 (scale + 2) = 4 * (m * Nat.pow 2 scale) := by
    rw [quarters_eq, Nat.mul_left_comm]
  have heq : (Interval.of (m * Nat.pow 2 scale)).value = 4 * (m * Nat.pow 2 scale) := rfl
  refine ⟨heq.trans hvalue.symm, ?_, ?_, ?_, ?_⟩ <;> rw [heq]
  · exact hlow
  · omega
  · rw [quarters_eq]
    omega
  · rw [quarters_eq]
    omega

/-! ### Grids of tens -/

namespace Interval

variable {i : Interval} {m : Nat}

/-- Of the whole numbers only the value is in the interval. -/
theorem Around.holds_iff (h : i.Around m) (x : Nat) :
    i.holds (x * Nat.pow 2 (scale + 2)) 1 = true ↔ x = m := by
  obtain ⟨hvalue, hlow, hhigh, hnear, hfar⟩ := h
  have hbelow : x < m → x * Nat.pow 2 (scale + 2) + Nat.pow 2 (scale + 2) ≤ i.value := by
    intro hx
    rw [hvalue, ← Nat.succ_mul]
    exact Nat.mul_le_mul_right _ hx
  have habove : m < x → i.value + Nat.pow 2 (scale + 2) ≤ x * Nat.pow 2 (scale + 2) := by
    intro hx
    rw [hvalue, ← Nat.succ_mul]
    exact Nat.mul_le_mul_right _ hx
  have hself : x = m → x * Nat.pow 2 (scale + 2) = i.value := by
    rintro rfl
    exact hvalue.symm
  generalize x * Nat.pow 2 (scale + 2) = y at hbelow habove hself
  generalize Nat.pow 2 (scale + 2) = unit at hbelow habove hnear hfar
  unfold holds
  split <;> simp only [Bool.and_eq_true, decide_eq_true_eq] <;> omega

/-- On a grid of tens there is the value itself, or nothing. -/
theorem Around.nearest?_eq (h : i.Around m) (e : Nat) :
    i.nearest? e = if 10 ^ e ∣ m then some ⟨m / 10 ^ e, e⟩ else none := by
  have hquotient : i.value * 1 / (Nat.pow 10 e * Nat.pow 2 (scale + 2)) = m / 10 ^ e := by
    rw [Nat.mul_one, h.value]
    exact Nat.mul_div_mul_right m _ quarters_pos
  have hgrid : ∀ x, i.holds (x * (Nat.pow 10 e * Nat.pow 2 (scale + 2))) 1
      = decide (x * 10 ^ e = m) := by
    intro x
    rw [← Nat.mul_assoc, Bool.eq_iff_iff, h.holds_iff, decide_eq_true_eq]
    rfl
  have hstep : gridStep e = (Nat.pow 10 e * Nat.pow 2 (scale + 2), 1) := by
    unfold gridStep
    rw [Int.toNat_natCast, Int.toNat_neg_natCast]
  -- the next point of the grid is past the value
  have hpast : ¬ (m / 10 ^ e + 1) * 10 ^ e = m := by
    have hlt := Nat.lt_div_mul_add (a := m) (Nat.pow_pos (n := e) (by decide : 0 < 10))
    rw [Nat.succ_mul]
    omega
  unfold nearest?
  simp only [hstep, hquotient, hgrid, decide_eq_false hpast]
  by_cases hdvd : 10 ^ e ∣ m
  · rw [if_pos hdvd, Nat.div_mul_cancel hdvd]
    simp
  · rw [if_neg hdvd, decide_eq_false fun heq => hdvd ⟨m / 10 ^ e, by rw [Nat.mul_comm, heq]⟩]
    simp

end Interval

/-! ### The shortest decimal -/

/-- The logarithm of a power of two is estimated too low by less than two. -/
theorem estimate_bounds {l : Nat} (h : l < 53) :
    10 ^ (l * 30103 / 100000) ≤ 2 ^ l ∧ 2 ^ (l + 1) ≤ 10 ^ (l * 30103 / 100000 + 2) := by
  revert l
  decide +kernel

/-- The leading digit of a whole number stands for the greatest power of ten that is not above. -/
theorem leadingExponent_integer {m : Nat} (hm : m ≠ 0) (hsafe : m ≤ Double.maxSafe) :
    ∃ e : Nat, leadingExponent (m * Nat.pow 2 scale) = e ∧ 10 ^ e ≤ m ∧ m < 10 ^ (e + 1) := by
  obtain ⟨hlow, hhigh⟩ := estimate_bounds (log2_lt_of_safe hm hsafe)
  have hle := Nat.log2_self_le hm
  have hlt := Nat.lt_log2_self (n := m)
  have hestimate : (((m * Nat.pow 2 scale).log2 : Int) - scale) * 30103 / 100000
      = (m.log2 * 30103 / 100000 : Nat) := by
    rw [log2_mul_two_pow hm]
    generalize scale = s
    omega
  have hstep : gridStep ((m.log2 * 30103 / 100000 : Nat) + 1)
      = (Nat.pow 10 (m.log2 * 30103 / 100000 + 1) * Nat.pow 2 (scale + 2), 1) := by
    have hnat : ((m.log2 * 30103 / 100000 : Nat) : Int) + 1
        = (m.log2 * 30103 / 100000 + 1 : Nat) := rfl
    rw [hnat, gridStep, Int.toNat_natCast, Int.toNat_neg_natCast]
  have hcompare : Nat.pow 10 (m.log2 * 30103 / 100000 + 1) * Nat.pow 2 (scale + 2)
      ≤ 4 * (m * Nat.pow 2 scale) * 1 ↔ 10 ^ (m.log2 * 30103 / 100000 + 1) ≤ m := by
    rw [Nat.mul_one, Nat.mul_left_comm, ← quarters_eq]
    exact Nat.mul_le_mul_right_iff quarters_pos
  unfold leadingExponent
  simp only [hestimate, hstep, hcompare]
  by_cases h : 10 ^ (m.log2 * 30103 / 100000 + 1) ≤ m
  · rw [if_pos h]
    exact ⟨m.log2 * 30103 / 100000 + 1, rfl, h, Nat.lt_of_lt_of_le hlt hhigh⟩
  · rw [if_neg h]
    exact ⟨m.log2 * 30103 / 100000, rfl, by omega, by omega⟩

/-- A decimal without a zero at its end is not stripped. -/
theorem Decimal.strip_of_not_dvd {x : Decimal} (h : ¬ 10 ∣ x.digits) (fuel : Nat) :
    x.strip fuel = x := by
  have hrest : ¬ x.digits % 10 = 0 := fun heq => h (Nat.dvd_of_mod_eq_zero heq)
  cases fuel with
  | zero => rfl
  | succ fuel =>
    rw [strip, if_neg]
    simp [hrest]

/-- The first place of a list of numbers at which there is something. -/
theorem findSome?_range {α : Type u} {f : Nat → Option α} {j n : Nat} {a : α} (hj : j < n)
    (ha : f j = some a) (hnone : ∀ i < j, f i = none) : (List.range n).findSome? f = some a := by
  obtain ⟨k, rfl⟩ := Nat.exists_eq_add_of_lt hj
  rw [Nat.add_assoc, List.range_add, List.range_succ_eq_map, List.map_cons]
  refine List.findSome?_eq_some_iff.2 ⟨_, _, _, rfl, ha, fun i hi => ?_⟩
  exact hnone i (List.mem_range.1 hi)

/-- The shortest decimal of a whole number leaves away the zeros at its end. -/
theorem shortest_integer {q z : Nat} (hq : ¬ 10 ∣ q) (hsafe : q * 10 ^ z ≤ Double.maxSafe) :
    shortest (q * 10 ^ z * Nat.pow 2 scale) = ⟨q, z⟩ := by
  have hpow : 0 < 10 ^ z := Nat.pow_pos (by decide)
  have hpos : q ≠ 0 := fun heq => hq (heq ▸ dvd_zero 10)
  have hm : q * 10 ^ z ≠ 0 := Nat.mul_ne_zero hpos (Nat.ne_of_gt hpow)
  have haround := around_integer hm hsafe
  -- the search starts at the leading digit and makes the grid finer
  obtain ⟨e, he, hlow, hhigh⟩ := leadingExponent_integer hm hsafe
  -- the last digit that is not zero is at `z`, so no grid is needed that is finer
  have hze : z ≤ e := by
    have hle : 10 ^ z ≤ q * 10 ^ z := Nat.le_mul_of_pos_left _ (Nat.pos_of_ne_zero hpos)
    have hlt := (Nat.pow_lt_pow_iff_right (by decide)).1 (Nat.lt_of_le_of_lt hle hhigh)
    omega
  have hmax : e < 16 := by
    apply (Nat.pow_lt_pow_iff_right (a := 10) (by decide)).1
    have hlarge : Double.maxSafe < 10 ^ 16 := by decide
    omega
  -- within half a unit there is only the integer itself
  have hnearest : ∀ j ≤ e, (Interval.of (q * 10 ^ z * Nat.pow 2 scale)).nearest? ((e : Int) - j)
      = if 10 ^ (e - j) ∣ q * 10 ^ z then some ⟨q * 10 ^ z / 10 ^ (e - j), (e - j : Nat)⟩
        else none := by
    intro j hj
    rw [← Int.natCast_sub hj]
    exact haround.nearest?_eq (e - j)
  have hfound : (List.range maxDigits).findSome?
      (fun j : Nat => (Interval.of (q * 10 ^ z * Nat.pow 2 scale)).nearest? ((e : Int) - j))
        = some ⟨q, z⟩ := by
    apply findSome?_range (j := e - z)
    · unfold maxDigits
      omega
    · have hplace : e - (e - z) = z := by omega
      rw [hnearest (e - z) (by omega), hplace, if_pos (Nat.dvd_mul_left _ _),
        Nat.mul_div_cancel q hpow]
    · -- a wider grid has no point at the value
      intro j hj
      rw [hnearest j (by omega), if_neg]
      intro hdvd
      have hten : 10 ^ z * 10 ∣ 10 ^ z * q := by
        rw [← Nat.pow_succ, Nat.mul_comm _ q]
        exact Nat.dvd_trans (Nat.pow_dvd_pow 10 (by omega)) hdvd
      exact hq (Nat.dvd_of_mul_dvd_mul_left hpow hten)
  unfold shortest
  simp only [he, hfound, Option.getD_some]
  exact Decimal.strip_of_not_dvd hq _

/-! ### Its text -/

/-- Zeros at the end of a number stand at the end of its digits. -/
theorem digitChars_mul_pow {q : Nat} (hq : 0 < q) (z : Nat) :
    digitChars (q * 10 ^ z) = digitChars q ++ List.replicate z '0' := by
  induction z with
  | zero => simp
  | succ z ih =>
    have hpos : 0 < q * 10 ^ z := Nat.mul_pos hq (Nat.pow_pos (by decide))
    have hzero : digitChars 0 = ['0'] := rfl
    have happend := Nat.toDigits_append_toDigits (b := 10) (d := 0) (by decide) hpos (by decide)
    rw [Nat.add_zero] at happend
    rw [Nat.pow_succ, ← Nat.mul_assoc, Nat.mul_comm _ 10, List.replicate_succ', ← List.append_assoc,
      ← ih, ← hzero]
    exact happend.symm

/-- A safe integer is written with its digits alone. -/
theorem magnitudeText_integer {m : Nat} (hsafe : m ≤ Double.maxSafe) :
    magnitudeText (m * Nat.pow 2 scale) = digitChars m := by
  have hpow : ∀ k, 0 < Nat.pow 2 k := fun k => Nat.two_pow_pos k
  rcases Nat.eq_zero_or_pos m with rfl | hm
  · rw [Nat.zero_mul, magnitudeText, if_pos rfl]
    rfl
  obtain ⟨z, q, hq, rfl⟩ := Nat.exists_eq_pow_mul_and_not_dvd (Nat.ne_of_gt hm) 10 (by decide)
  rw [Nat.mul_comm _ q] at hm hsafe ⊢
  have hlength := Double.length_digitChars_le hsafe
  rw [digitChars_mul_pow (Nat.pos_of_mul_pos_right hm) z, List.length_append, List.length_replicate]
    at hlength
  have hunits : q * 10 ^ z * Nat.pow 2 scale ≠ 0 := Nat.ne_of_gt (Nat.mul_pos hm (hpow scale))
  rw [magnitudeText, if_neg hunits, shortest_integer hq hsafe,
    digitChars_mul_pow (Nat.pos_of_mul_pos_right hm) z]
  have hcount : ((digitChars q).length + (z : Int) - (digitChars q).length).toNat = z := by omega
  unfold layout positionalLimit
  dsimp only
  rw [hcount, if_pos]
  simp only [Bool.and_eq_true, decide_eq_true_eq]
  omega

/-- An integer of at most 53 bits is shown as its digits and its sign. -/
theorem Double.text_ofInt {n : Int} (hn : n.natAbs ≤ maxSafe) : (ofInt n).text = intText n := by
  obtain ⟨h, heq⟩ := ofInt_eq_finite hn
  have hsign : n * Nat.pow 2 scale < 0 ↔ n < 0 := by
    have hlt : n * Nat.pow 2 scale < 0 * Nat.pow 2 scale ↔ n < 0 :=
      Int.mul_lt_mul_right one_pos_units
    rwa [Int.zero_mul] at hlt
  have hsize : (n * Nat.pow 2 scale).natAbs = n.natAbs * Nat.pow 2 scale := by
    rw [Int.natAbs_mul, Int.natAbs_natCast]
  rw [heq, text, hsize, magnitudeText_integer hn]
  simp only [hsign]
  rfl

end Phrasebook.Number
