import Phrasebook.Proofs.Number.Rounding
import Mathlib.Data.Nat.Log

namespace Phrasebook.Number

/-!
# Numbers with two decimals

A quotient is rounded to 53 bits first and to two decimals then.  A thousandth of an integer of at
most 53 bits is so small that the first rounding moves it by less than the thousandth part of one,
so what is written is a hundredth next to the quotient: none is farther off than a half.

* `roundHalfEven_near`, `roundUnits_near`: how far rounding moves a quotient.
* `Double.div_thousand`: the thousandth part of an integer.
* `hundredthsText`: a number of hundredths, in digits with two decimals.
* `Double.fixed_div_thousand`: the hundredths that are written of the thousandth part of an integer.
* `Double.isShown`, `Double.isShown_of_mem_fixed`: the characters that numbers are shown with.
-/

/-! ### How far rounding moves a quotient -/

/-- The whole number nearest to a quotient is within a half of it. -/
theorem roundHalfEven_near (a : Nat) {b : Nat} (hb : 0 < b) :
    2 * (roundHalfEven a b * b) ≤ 2 * a + b ∧ 2 * a ≤ 2 * (roundHalfEven a b * b) + b := by
  have hsplit : a / b * b + a % b = a := by
    rw [Nat.mul_comm]
    exact Nat.div_add_mod a b
  have hrest := Nat.mod_lt a hb
  unfold roundHalfEven
  split
  · omega
  · rw [Nat.add_one_mul (a / b) b]
    omega

/-- A quotient rounded to 53 bits is within half of the last one that is kept. -/
theorem roundUnits_near (a : Nat) {b : Nat} (hb : 0 < b) :
    2 * (roundUnits a b * b) ≤ 2 * a + b * Nat.pow 2 (excess a b) ∧
      2 * a ≤ 2 * (roundUnits a b * b) + b * Nat.pow 2 (excess a b) := by
  have hpos : 0 < b * Nat.pow 2 (excess a b) := Nat.mul_pos hb (Nat.two_pow_pos _)
  have hnear := roundHalfEven_near a hpos
  have hprod : roundUnits a b * b
      = roundHalfEven a (b * Nat.pow 2 (excess a b)) * (b * Nat.pow 2 (excess a b)) := by
    rw [roundUnits, Nat.mul_assoc, Nat.mul_comm _ b]
  rwa [hprod]

/-- A thousandth part of an integer of at most 53 bits keeps nine bits and more of a fraction. -/
theorem excess_thousand {m : Nat} (hm : m ≤ Double.maxSafe) :
    excess (m * Nat.pow 2 scale) 1000 + 9 ≤ scale := by
  have hmax : (Double.maxSafe * Nat.pow 2 scale / 1000).log2 = 1117 := by decide +kernel
  have hle : m * Nat.pow 2 scale / 1000 ≤ Double.maxSafe * Nat.pow 2 scale / 1000 :=
    Nat.div_le_div_right (Nat.mul_le_mul_right _ hm)
  have hlog := Nat.log_mono_right (b := 2) hle
  have hscale : scale = 1074 := rfl
  rw [← Nat.log2_eq_log_two, ← Nat.log2_eq_log_two, hmax] at hlog
  unfold excess precision
  generalize (m * Nat.pow 2 scale / 1000).log2 = log at hlog
  omega

/-- The last bits are worth the 512th part of one, or less. -/
theorem mul_two_pow_le {k s : Nat} (h : k + 9 ≤ s) : 512 * Nat.pow 2 k ≤ Nat.pow 2 s := by
  have hsplit : 2 ^ (k + 9) = 512 * 2 ^ k := by rw [Nat.pow_add, Nat.mul_comm]
  have hle : 2 ^ (k + 9) ≤ 2 ^ s := Nat.pow_le_pow_right (by decide) h
  rw [hsplit] at hle
  exact hle

/-- A thousandth part of an integer is moved by less than a thousandth of one. -/
theorem roundUnits_thousand {m : Nat} (hm : m ≤ Double.maxSafe) :
    1000 * roundUnits (m * Nat.pow 2 scale) 1000 < m * Nat.pow 2 scale + Nat.pow 2 scale ∧
      m * Nat.pow 2 scale < 1000 * roundUnits (m * Nat.pow 2 scale) 1000 + Nat.pow 2 scale := by
  have hpow : ∀ k, 0 < Nat.pow 2 k := fun k => Nat.two_pow_pos k
  have hone := hpow scale
  have hnear := roundUnits_near (m * Nat.pow 2 scale) (b := 1000) (by decide)
  have hlast := mul_two_pow_le (excess_thousand hm)
  rw [Nat.mul_comm 1000 (roundUnits _ _)]
  generalize Nat.pow 2 (excess (m * Nat.pow 2 scale) 1000) = last at hnear hlast
  generalize roundUnits (m * Nat.pow 2 scale) 1000 = u at hnear ⊢
  generalize m * Nat.pow 2 scale = n at hnear ⊢
  generalize Nat.pow 2 scale = unit at hlast hone ⊢
  omega

/-! ### Hundredths -/

/-- A number of hundredths in digits, two of them after the point. -/
def hundredthsText (n : Nat) : String :=
  String.ofList (digitChars (n / 100) ++ '.' :: digitChars (n % 100 / 10)
    ++ digitChars (n % 100 % 10))

/-- A magnitude near the thousandth part of an integer has the hundredths next to that part. -/
theorem hundredths_near {m u unit : Nat} (hpos : 0 < unit)
    (hhigh : 1000 * u < m * unit + unit) (hlow : m * unit < 1000 * u + unit) :
    10 * ((u * 200 + unit) / (2 * unit)) ≤ m + 5 ∧
      m ≤ 10 * ((u * 200 + unit) / (2 * unit)) + 5 := by
  have hle := Nat.div_mul_le_self (u * 200 + unit) (2 * unit)
  have hlt := Nat.lt_div_mul_add (a := u * 200 + unit) (b := 2 * unit) (by omega)
  generalize (u * 200 + unit) / (2 * unit) = n at hle hlt
  rw [Nat.mul_left_comm] at hle hlt
  constructor
  · have hmul : 10 * n * unit < (m + 6) * unit := by
      rw [Nat.add_mul, Nat.mul_assoc]
      omega
    have hlt' := Nat.lt_of_mul_lt_mul_right hmul
    omega
  · have hmul : m * unit < (10 * n + 6) * unit := by
      rw [Nat.add_mul, Nat.mul_assoc]
      omega
    have hlt' := Nat.lt_of_mul_lt_mul_right hmul
    omega

/-- A thousandth part of an integer of at most 53 bits is far below every magnitude of so many
    units. -/
theorem roundUnits_thousand_lt {m bound : Nat} (hm : m ≤ Double.maxSafe)
    (hbound : (Double.maxSafe + 1) * Nat.pow 2 scale ≤ bound) :
    roundUnits (m * Nat.pow 2 scale) 1000 < bound := by
  have hnear := (roundUnits_thousand hm).1
  have hle : (m + 1) * Nat.pow 2 scale ≤ (Double.maxSafe + 1) * Nat.pow 2 scale :=
    Nat.mul_le_mul_right _ (by omega)
  rw [Nat.add_one_mul m] at hle
  generalize roundUnits (m * Nat.pow 2 scale) 1000 = u at hnear ⊢
  generalize m * Nat.pow 2 scale + Nat.pow 2 scale = n at hnear hle
  generalize (Double.maxSafe + 1) * Nat.pow 2 scale = most at hbound hle
  omega

namespace Double

/-- The thousandth part of an integer of at most 53 bits, in units. -/
theorem div_thousand {m : Nat} (hm : m ≤ maxSafe) :
    ∃ h, (ofInt m).div 1000 = .finite (roundUnits (m * Nat.pow 2 scale) 1000) h := by
  obtain ⟨h, heq⟩ := ofInt_eq_finite (n := m) (by omega)
  have hsize : ((m : Int) * Nat.pow 2 scale).natAbs = m * Nat.pow 2 scale := by
    rw [← Int.natCast_mul, Int.natAbs_natCast]
  have hsign : decide ((m : Int) * Nat.pow 2 scale < 0) = false := by
    rw [← Int.natCast_mul]
    exact decide_eq_false (Int.not_lt.2 (Int.natCast_nonneg _))
  have hrange : roundUnits (m * Nat.pow 2 scale) 1000 < limit :=
    roundUnits_thousand_lt hm (by decide +kernel)
  rw [heq, div, hsize, hsign, ofUnits, dif_pos (show 0 < 1000 by decide), dif_pos hrange]
  exact ⟨_, rfl⟩

/-- A number that is not too large is written with two decimals as its hundredths, after its
    sign. -/
theorem fixed_finite {u : Int} (h : Representable u.natAbs) (hu : ¬ fixedLimit ≤ u.natAbs) :
    (finite u h).fixed = String.ofList ((if u < 0 then ['-'] else [])
      ++ (hundredthsText ((u.natAbs * 200 + Nat.pow 2 scale) / (2 * Nat.pow 2 scale))).toList) := by
  rw [fixed, if_neg hu, hundredthsText, String.toList_ofList]
  simp only [List.append_assoc]

/-- The thousandth part of an integer of at most 53 bits is written as a hundredth next to it. -/
theorem fixed_div_thousand {m : Nat} (hm : m ≤ maxSafe) :
    ∃ n : Nat, 10 * n ≤ m + 5 ∧ m ≤ 10 * n + 5 ∧
      ((ofInt m).div 1000).fixed = hundredthsText n := by
  have hpow : ∀ k, 0 < Nat.pow 2 k := fun k => Nat.two_pow_pos k
  obtain ⟨h, heq⟩ := div_thousand hm
  obtain ⟨hhigh, hlow⟩ := roundUnits_thousand hm
  have hsmall : ¬ fixedLimit ≤ (roundUnits (m * Nat.pow 2 scale) 1000 : Int).natAbs := by
    rw [Int.natAbs_natCast]
    exact Nat.not_le.2 (roundUnits_thousand_lt hm (by decide +kernel))
  obtain ⟨hnear, hnear'⟩ := hundredths_near (hpow scale) hhigh hlow
  refine ⟨_, hnear, hnear', ?_⟩
  rw [heq, fixed_finite h hsmall, if_neg (Int.not_lt.2 (Int.natCast_nonneg _)), List.nil_append,
    String.ofList_toList, Int.natAbs_natCast]

/-! ### Their characters -/

/-- Whether a character is one of those that numbers are shown with. -/
def isShown (c : Char) : Bool :=
  c.isDigit || ['-', '+', '.', 'e', 'N', 'a', 'I', 'n', 'f', 'i', 't', 'y'].contains c

/-- Numbers are shown with digits, among others. -/
theorem isShown_of_isDigit {c : Char} (h : c.isDigit = true) : isShown c = true := by
  rw [isShown, h, Bool.true_or]

/-- The digits of a number are among these characters. -/
theorem isShown_of_mem_digitChars {n : Nat} {c : Char} (h : c ∈ digitChars n) :
    isShown c = true :=
  isShown_of_isDigit (isDigit_of_mem_digitChars h)

/-- Digits that are laid out stay among them. -/
theorem isShown_of_mem_layout {digits : List Char} (h : ∀ c ∈ digits, isShown c = true)
    (point : Int) : ∀ c ∈ layout digits point, isShown c = true := by
  have hzeros : ∀ k, ∀ c ∈ List.replicate k '0', isShown c = true := by
    intro k c hc
    rw [List.eq_of_mem_replicate hc]
    rfl
  have happend : ∀ s t : List Char, (∀ c ∈ s, isShown c = true) → (∀ c ∈ t, isShown c = true) →
      ∀ c ∈ s ++ t, isShown c = true :=
    fun s t hs ht c hc => (List.mem_append.1 hc).elim (hs c) (ht c)
  have hcons : ∀ (d : Char) (s : List Char), isShown d = true → (∀ c ∈ s, isShown c = true) →
      ∀ c ∈ d :: s, isShown c = true :=
    fun d s hd hs c hc => (List.mem_cons.1 hc).elim (fun heq => heq ▸ hd) (hs c)
  -- the exponent, with its sign
  have hmark : ∀ c ∈ 'e' :: (if point - 1 < 0 then '-' else '+') :: digitChars (point - 1).natAbs,
      isShown c = true := by
    refine hcons _ _ rfl (hcons _ _ ?_ fun c => isShown_of_mem_digitChars)
    split <;> rfl
  -- the ways of writing: with zeros, with a point, with zeros in front, with an exponent
  unfold layout
  dsimp only
  split
  · exact happend _ _ h (hzeros _)
  split
  · exact happend _ _ (fun c hc => h c (List.mem_of_mem_take hc))
      (hcons _ _ rfl fun c hc => h c (List.mem_of_mem_drop hc))
  split
  · exact hcons _ _ rfl (hcons _ _ rfl (happend _ _ (hzeros _) h))
  split
  · exact hmark
  · exact hcons _ _ (h _ (by simp)) hmark
  · refine hcons _ _ (h _ (by simp)) (hcons _ _ rfl (happend _ _ (fun c hc => ?_) hmark))
    exact h c (by simp [hc])

/-- A number is written with them alone. -/
theorem isShown_of_mem_text {x : Double} : ∀ c ∈ x.text.toList, isShown c = true := by
  cases x with
  | nan => exact List.all_eq_true.1 (by decide +kernel)
  | infinity negative => cases negative <;> exact List.all_eq_true.1 (by decide +kernel)
  | finite u h =>
    have hmagnitude : ∀ c ∈ magnitudeText u.natAbs, isShown c = true := by
      unfold magnitudeText
      split
      · exact List.all_eq_true.1 (by decide +kernel)
      · exact isShown_of_mem_layout (fun c => isShown_of_mem_digitChars) _
    intro c hc
    rw [text, String.toList_ofList, List.mem_append] at hc
    rcases hc with hc | hc
    · split at hc
      · rw [List.mem_singleton.1 hc]
        rfl
      · exact absurd hc List.not_mem_nil
    · exact hmagnitude c hc

/-- So is a number of hundredths. -/
theorem isShown_of_mem_hundredthsText {n : Nat} :
    ∀ c ∈ (hundredthsText n).toList, isShown c = true := by
  intro c hc
  simp only [hundredthsText, String.toList_ofList, List.mem_append, List.mem_cons] at hc
  rcases hc with (hc | rfl | hc) | hc
  · exact isShown_of_mem_digitChars hc
  · rfl
  · exact isShown_of_mem_digitChars hc
  · exact isShown_of_mem_digitChars hc

/-- So is a number with two digits after the point. -/
theorem isShown_of_mem_fixed {x : Double} : ∀ c ∈ x.fixed.toList, isShown c = true := by
  cases x with
  | nan => exact isShown_of_mem_text
  | infinity negative => exact isShown_of_mem_text
  | finite u h =>
    by_cases hu : fixedLimit ≤ u.natAbs
    · rw [fixed, if_pos hu]
      exact isShown_of_mem_text
    · intro c hc
      rw [fixed_finite h hu, String.toList_ofList, List.mem_append] at hc
      rcases hc with hc | hc
      · split at hc
        · rw [List.mem_singleton.1 hc]
          rfl
        · exact absurd hc List.not_mem_nil
      · exact isShown_of_mem_hundredthsText c hc

end Double

end Phrasebook.Number
