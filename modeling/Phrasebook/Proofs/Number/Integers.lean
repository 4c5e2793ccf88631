import Phrasebook.Proofs.Number.Difference
import Phrasebook.Proofs.Number.Digits
import Phrasebook.Proofs.Text.Trim
import Mathlib.Data.List.TakeWhile
import Mathlib.Data.Nat.Digits.Defs

namespace Phrasebook.Number

/-!
# Integers of at most 53 bits

An integer of at most 53 bits is a number of its own: nothing of it is rounded away, it is compared
as an integer, and its decimal digits read back as that number.

* `roundUnits_of_dvd`: rounding leaves alone what ends in as many zero bits as are too many.
* `Double.ofInt_eq_finite`: such an integer is that many units of one.
* `Double.toInt?_ofInt`: it stays the integer that it is.
* `Double.lt_iff_of_toInt?`, `Double.sub_of_toInt?`: integers among the numbers are in their order,
  and of their difference only the rounding of the result is lost.
* `Double.ofText_digitChars`: its digits are read as that number.
-/

/-! ### Exact magnitudes -/

/-- A quotient that comes out even is not rounded. -/
theorem roundHalfEven_mul (q : Nat) {b : Nat} (hb : 0 < b) : roundHalfEven (q * b) b = q := by
  have hrest : q * b % b = 0 := Nat.mul_mod_left q b
  rw [roundHalfEven, hrest, if_pos (Or.inl (by omega)), Nat.mul_div_cancel q hb]

/-- Rounding leaves alone what ends in as many zero bits as there are too many. -/
theorem roundUnits_of_dvd {n : Nat} (h : Nat.pow 2 (excess n 1) ∣ n) : roundUnits n 1 = n := by
  obtain ⟨q, hq⟩ := h
  have hpos : 0 < Nat.pow 2 (excess n 1) := Nat.two_pow_pos _
  rw [roundUnits, Nat.one_mul]
  generalize Nat.pow 2 (excess n 1) = b at hq hpos ⊢
  rw [hq, Nat.mul_comm b q, roundHalfEven_mul q hpos]

/-- A power of two more zero bits make the highest bit that much higher. -/
theorem log2_mul_two_pow {m : Nat} (hm : m ≠ 0) (k : Nat) :
    (m * Nat.pow 2 k).log2 = m.log2 + k := by
  have hpow : Nat.pow 2 k ≠ 0 := Nat.ne_of_gt (Nat.two_pow_pos k)
  rw [Nat.log2_eq_iff (Nat.mul_ne_zero hm hpow)]
  have hlow : 2 ^ m.log2 ≤ m := Nat.log2_self_le hm
  have hhigh : m < 2 ^ (m.log2 + 1) := Nat.lt_log2_self
  constructor
  · rw [Nat.pow_add]
    exact Nat.mul_le_mul_right _ hlow
  · rw [Nat.add_right_comm, Nat.pow_add]
    exact Nat.mul_lt_mul_of_pos_right hhigh (Nat.two_pow_pos k)

/-- One has `scale` zero bits. -/
theorem pow_dvd_units {k : Nat} (h : k ≤ scale) : Nat.pow 2 k ∣ Nat.pow 2 scale := by
  generalize scale = s at h ⊢
  exact Nat.pow_dvd_pow 2 h

/-- Nothing of an integer of at most 53 bits is too much to keep. -/
theorem roundUnits_integer {m : Nat} (hm : m ≤ Double.maxSafe) :
    roundUnits (m * Nat.pow 2 scale) 1 = m * Nat.pow 2 scale := by
  apply roundUnits_of_dvd
  rcases Nat.eq_zero_or_pos m with rfl | hpos
  · rw [Nat.zero_mul]
    exact dvd_zero _
  · have hne : m ≠ 0 := by omega
    have hlog : m.log2 < 53 := by
      apply (Nat.log2_lt hne).2
      have hmax : Double.maxSafe = 2 ^ 53 - 1 := rfl
      omega
    have hexcess : excess (m * Nat.pow 2 scale) 1 ≤ scale := by
      unfold excess precision
      rw [Nat.div_one, log2_mul_two_pow hne]
      omega
    generalize excess (m * Nat.pow 2 scale) 1 = e at hexcess ⊢
    exact Dvd.dvd.mul_left (pow_dvd_units hexcess) m

/-- An integer of at most 53 bits is in range. -/
theorem integer_lt_limit {m : Nat} (hm : m ≤ Double.maxSafe) : m * Nat.pow 2 scale < limit := by
  have hmax : Double.maxSafe * Nat.pow 2 scale < limit := by decide +kernel
  exact Nat.lt_of_le_of_lt (Nat.mul_le_mul_right _ hm) hmax

namespace Double

/-! ### The numbers of integers -/

/-- An integer of at most 53 bits is that many units of one. -/
theorem ofInt_eq_finite {n : Int} (hn : n.natAbs ≤ maxSafe) :
    ∃ h, ofInt n = .finite (n * Nat.pow 2 scale) h := by
  have hround := roundUnits_integer hn
  have hlt : roundUnits (n.natAbs * Nat.pow 2 scale) 1 < limit := by
    rw [hround]
    exact integer_lt_limit hn
  rw [ofInt, ofRatio, ofUnits, dif_pos Nat.one_pos, dif_pos hlt]
  -- the sign is put back on the magnitude that was rounded
  by_cases hneg : n < 0
  · rw [if_pos (decide_eq_true hneg)]
    apply finite_congr
    rw [hround, Int.natCast_mul, ← Int.neg_mul, Int.ofNat_natAbs_of_nonpos (by omega), Int.neg_neg]
  · rw [if_neg (by simpa using hneg)]
    apply finite_congr
    rw [hround, Int.natCast_mul, Int.natAbs_of_nonneg (by omega)]

theorem one_pos_units : (0 : Int) < Nat.pow 2 scale := by
  have hpow : ∀ k, 0 < Nat.pow 2 k := fun k => Nat.two_pow_pos k
  exact Int.natCast_pos.2 (hpow scale)

/-- An integer of at most 53 bits stays the integer that it is. -/
theorem toInt?_ofInt {n : Int} (hn : n.natAbs ≤ maxSafe) : (ofInt n).toInt? = some n := by
  obtain ⟨h, heq⟩ := ofInt_eq_finite hn
  have hone : ((Nat.pow 2 scale : Nat) : Int) ≠ 0 := Int.ne_of_gt one_pos_units
  rw [heq, toInt?, Int.mul_emod_left, if_pos rfl, Int.mul_ediv_cancel n hone]

/-- A number that is an integer is that many units of one. -/
theorem finite_of_toInt? {x : Double} {n : Int} (hx : x.toInt? = some n) :
    ∃ h, x = .finite (n * Nat.pow 2 scale) h := by
  cases x with
  | nan => exact absurd hx (by simp [toInt?])
  | infinity negative => exact absurd hx (by simp [toInt?])
  | finite u h =>
    rw [toInt?] at hx
    split at hx
    · rename_i hrest
      rw [← Option.some.inj hx]
      have hunits : u / Nat.pow 2 scale * Nat.pow 2 scale = u :=
        Int.ediv_mul_cancel_of_emod_eq_zero hrest
      exact ⟨by rwa [hunits], by simp only [hunits]⟩
    · exact absurd hx (by simp)

/-- Of integers of at most 53 bits there is one number for each. -/
theorem toInt?_eq_some_iff {n : Int} (hn : n.natAbs ≤ maxSafe) (x : Double) :
    x.toInt? = some n ↔ x = ofInt n := by
  constructor
  · intro hx
    obtain ⟨h, rfl⟩ := finite_of_toInt? hx
    obtain ⟨h', heq⟩ := ofInt_eq_finite hn
    exact heq.symm
  · intro hx
    rw [hx, toInt?_ofInt hn]

/-- Integers among the numbers are in their order. -/
theorem lt_iff_of_toInt? {x y : Double} {a b : Int} (hx : x.toInt? = some a)
    (hy : y.toInt? = some b) : x.lt y = true ↔ a < b := by
  obtain ⟨ha, rfl⟩ := finite_of_toInt? hx
  obtain ⟨hb, rfl⟩ := finite_of_toInt? hy
  rw [lt_iff_not_le rfl rfl, finite_le_finite, Int.not_le]
  exact Int.mul_lt_mul_right one_pos_units

/-- The difference of integers among the numbers is rounded once. -/
theorem sub_of_toInt? {x y : Double} {a b : Int} (hx : x.toInt? = some a) (hy : y.toInt? = some b) :
    x.sub y = ofInt (a - b) := by
  obtain ⟨ha, rfl⟩ := finite_of_toInt? hx
  obtain ⟨hb, rfl⟩ := finite_of_toInt? hy
  have hsign : a * Nat.pow 2 scale < b * Nat.pow 2 scale ↔ a - b < 0 := by
    rw [Int.mul_lt_mul_right one_pos_units]
    omega
  have hsize : (a * Nat.pow 2 scale - b * Nat.pow 2 scale).natAbs
      = (a - b).natAbs * Nat.pow 2 scale := by
    rw [← Int.sub_mul, Int.natAbs_mul, Int.natAbs_natCast]
  rw [sub, ofInt, ofRatio, hsize]
  simp only [hsign]

/-! ### Integers in decimal digits -/

/-- An integer of at most 53 bits has at most 16 digits. -/
theorem length_digitChars_le {n : Nat} (hn : n ≤ maxSafe) : (digitChars n).length ≤ 16 := by
  apply Nat.toDigits_length 10 n 16 (by decide)
  have hmax : maxSafe < 10 ^ 16 := by decide
  omega

/-- As a decimal without places, an integer is what it is, unless it has so many digits that it is
    out of range. -/
theorem ofDecimal_integer (negative : Bool) (n : Nat) :
    ofDecimal negative n 0 = ofInt (if negative then -(n : Int) else n) ∨
      maxSafe < n ∧ ofDecimal negative n 0 = infinity negative := by
  rw [ofDecimal]
  by_cases hzero : n = 0
  · have hnone : (if negative then -(n : Int) else n) = 0 := by cases negative <;> simp [hzero]
    rw [if_pos hzero, hnone, zero]
    exact Or.inl rfl
  rw [if_neg hzero]
  -- only more digits than a safe integer has are out of range
  by_cases hrange : rangeDigits < ((Nat.toDigits 10 n).length : Int) + 0
  · refine Or.inr ⟨?_, if_pos hrange⟩
    apply Nat.lt_of_not_le
    intro hsafe
    have hlength := length_digitChars_le hsafe
    unfold digitChars at hlength
    unfold rangeDigits at hrange
    omega
  · rw [if_neg hrange, if_neg (by unfold rangeDigits; omega), ofInt]
    have hone : Nat.pow 10 (0 : Int).toNat = 1 := rfl
    have hsign : decide ((if negative then -(n : Int) else n) < 0) = negative := by
      cases negative with
      | true => exact decide_eq_true (show -(n : Int) < 0 by omega)
      | false => exact decide_eq_false (show ¬ (n : Int) < 0 by omega)
    have hsize : (if negative then -(n : Int) else n).natAbs = n := by
      cases negative with
      | true => exact (Int.natAbs_neg n).trans (Int.natAbs_natCast n)
      | false => exact Int.natAbs_natCast n
    rw [hsign, hsize, Int.neg_zero, hone, Nat.mul_one]
    exact Or.inl rfl

/-- As a decimal without places, an integer of at most 53 bits is what it is. -/
theorem ofDecimal_zero {n : Nat} (hn : n ≤ maxSafe) : ofDecimal false n 0 = ofInt n :=
  (ofDecimal_integer false n).resolve_right fun h => absurd h.1 (by omega)

/-- Digits on their own are read as a decimal without places. -/
theorem ofUnsigned_of_digits (negative : Bool) {d : List Char}
    (h : ∀ c ∈ d, c.isDigit = true) (hne : d ≠ []) :
    ofUnsigned negative d = ofDecimal negative (Nat.ofDigitChars 10 d 0) 0 := by
  have hall : ∀ c ∈ d, isDigit c = true := by
    intro c hc
    rw [isDigit_eq]
    exact h c hc
  have hleading : leadingDigits d = d := List.takeWhile_eq_self_iff.2 hall
  have hafter : afterDigits d = [] := List.dropWhile_eq_nil_iff.2 hall
  have hword : d ≠ "Infinity".toList := by
    intro heq
    have hI : isDigit 'I' = true := hall 'I' (by rw [heq]; decide)
    exact absurd hI (by decide)
  have hsome : d.isEmpty = false := List.isEmpty_eq_false_iff.2 hne
  rw [ofUnsigned, if_neg hword, hafter, hleading]
  show (if d.isEmpty && true then nan else ofDecimal negative (natOfDigits (d ++ [])) 0) = _
  rw [hsome, Bool.false_and, if_neg Bool.false_ne_true, List.append_nil, natOfDigits_eq h]

/-- The characters other than digits that tell one form of numeral from another. -/
def numeralMarks : List Char := ['+', '-', 'x', 'X', 'o', 'O', 'b', 'B']

/-- A decimal digit is neither a blank nor a mark of a numeral. -/
theorem apart_of_isDigit {c : Char} (h : c.isDigit = true) :
    Text.isBlank c = false ∧ c ∉ numeralMarks := by
  have hle : '0' ≤ c ∧ c ≤ '9' := (isDigit_iff c).1 h
  have hlow : 48 ≤ c.toNat := hle.1
  have hhigh : c.toNat ≤ 57 := hle.2
  constructor
  · rw [Bool.eq_false_iff]
    intro hblank
    simp only [Text.isBlank, Bool.or_eq_true, Bool.and_eq_true, decide_eq_true_eq, beq_iff_eq]
      at hblank
    omega
  · intro hmem
    have hnone : numeralMarks.all (fun d => !d.isDigit) = true := by decide
    have hnot : (!c.isDigit) = true := List.all_eq_true.1 hnone c hmem
    rw [h] at hnot
    exact Bool.false_ne_true hnot

/-- Digits after a sign, or without one, are read as a decimal without places. -/
theorem ofText_of_digits {s d : List Char} {negative : Bool}
    (hsplit : splitSign (Text.trim s) = (negative, d)) (h : ∀ c ∈ d, c.isDigit = true)
    (hne : d ≠ []) : ofText s = ofDecimal negative (Nat.ofDigitChars 10 d 0) 0 := by
  have hsecond : ∀ c t, Text.trim s = '0' :: c :: t → c ∉ numeralMarks := by
    intro c t hs
    rw [hs] at hsplit
    have hd : '0' :: c :: t = d := (Prod.mk.inj hsplit).2
    exact (apart_of_isDigit (h c (by rw [← hd]; simp))).2
  rw [ofText]
  -- there is a first digit, and the character after it is no letter that tells a base
  split
  case h_1 hnil =>
    rw [hnil] at hsplit
    exact absurd (Prod.mk.inj hsplit).2.symm hne
  case h_8 =>
    rw [hsplit]
    exact ofUnsigned_of_digits negative h hne
  all_goals
    rename_i t hs
    exact absurd (by decide) (hsecond _ t hs)

/-- The digits of an integer of at most 53 bits are read as that number. -/
theorem ofText_digitChars {n : Nat} (hn : n ≤ maxSafe) : ofText (digitChars n) = ofInt n := by
  have hdigits : ∀ c ∈ digitChars n, c.isDigit = true := fun c hc => isDigit_of_mem_digitChars hc
  have htrim : Text.trim (digitChars n) = digitChars n :=
    Text.trim_of_trimmed (Text.trimmed_of_forall fun c hc => (apart_of_isDigit (hdigits c hc)).1)
  have hsplit : splitSign (Text.trim (digitChars n)) = (false, digitChars n) := by
    rw [htrim, splitSign_of_digits hdigits]
  rw [ofText_of_digits hsplit hdigits Nat.toDigits_ne_nil, digitChars,
    Nat.ofDigitChars_ten_toDigits, ofDecimal_zero hn]

end Double

end Phrasebook.Number
