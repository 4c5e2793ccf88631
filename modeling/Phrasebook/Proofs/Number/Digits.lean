import Phrasebook.Number.Layout
import Phrasebook.Number.Numeral

namespace Phrasebook.Number

/-!
# Decimal digits

What a row of decimal digits is worth, and that writing a number and reading it are inverse.

* `valueAfter?_ten`: the value of digits is the one of core.
* `valueOf?_digitChars`: the digits of a number have its value.
* `signOf`, `toList_intText`: an integer is written as its sign and its digits.
* `intText_inj`: no two integers are written alike.
-/

/-- The characters from `0` to `9` are what core calls digits. -/
theorem isDigit_iff (c : Char) : c.isDigit = true ↔ '0' ≤ c ∧ c ≤ '9' := by
  simp only [Char.isDigit, Bool.and_eq_true, decide_eq_true_eq]
  exact Iff.rfl

/-- A digit is what core calls one. -/
theorem isDigit_eq (c : Char) : isDigit c = c.isDigit := by
  unfold isDigit decimalDigit?
  by_cases h : c.isDigit = true
  · rw [if_pos ((isDigit_iff c).1 h), h]
    rfl
  · rw [if_neg (mt (isDigit_iff c).2 h)]
    simpa using h

/-- The value of a decimal digit. -/
theorem digit?_ten {c : Char} (h : c.isDigit = true) :
    digit? 10 c = some (c.toNat - '0'.toNat) := by
  have hle : '0' ≤ c ∧ c ≤ '9' := (isDigit_iff c).1 h
  have hnat : c.toNat ≤ '9'.toNat := hle.2
  have hlt : c.toNat - '0'.toNat < 10 := by
    have h9 : '9'.toNat = 57 := rfl
    have h0 : '0'.toNat = 48 := rfl
    omega
  simp only [digit?, if_pos hle, Option.filter_some, decide_eq_true hlt, if_true]

/-- The value of a row of decimal digits. -/
theorem valueAfter?_ten {s : List Char} (h : ∀ c ∈ s, c.isDigit = true) (n : Nat) :
    valueAfter? 10 n s = some (Nat.ofDigitChars 10 s n) := by
  induction s generalizing n with
  | nil => simp [valueAfter?]
  | cons c s ih =>
    have hc : c.isDigit = true := h c (by simp)
    have hs : ∀ d ∈ s, d.isDigit = true := fun d hd => h d (by simp [hd])
    rw [valueAfter?, digit?_ten hc, Option.bind_some, ih hs, Nat.ofDigitChars_cons, Nat.mul_comm]

/-- Only a decimal digit has a value to base ten. -/
theorem isDigit_of_digit? {c : Char} {d : Nat} (h : digit? 10 c = some d) : c.isDigit = true := by
  by_cases hdigit : '0' ≤ c ∧ c ≤ '9'
  · exact (isDigit_iff c).2 hdigit
  · -- a letter is worth ten at least
    simp only [digit?, if_neg hdigit] at h
    split at h
    · obtain ⟨rfl, hlt⟩ : c.toNat - 'a'.toNat + 10 = d ∧ d < 10 := by simpa using h
      omega
    · split at h
      · obtain ⟨rfl, hlt⟩ : c.toNat - 'A'.toNat + 10 = d ∧ d < 10 := by simpa using h
        omega
      · exact absurd h (by simp)

/-- A row of characters has a value just where all of them are digits. -/
theorem valueAfter?_ten_eq_some_iff {s : List Char} {n m : Nat} :
    valueAfter? 10 n s = some m ↔ (∀ c ∈ s, c.isDigit = true) ∧ m = Nat.ofDigitChars 10 s n := by
  have hdigits : ∀ {s n}, valueAfter? 10 n s = some m → ∀ c ∈ s, c.isDigit = true := by
    intro s
    induction s with
    | nil => simp
    | cons c s ih =>
      intro n h
      obtain ⟨d, hd, hrest⟩ := Option.bind_eq_some_iff.1 h
      intro e he
      rcases List.mem_cons.1 he with rfl | he
      · exact isDigit_of_digit? hd
      · exact ih hrest e he
  constructor
  · intro h
    have hvalue := valueAfter?_ten (hdigits h) n
    exact ⟨hdigits h, Option.some.inj (h.symm.trans hvalue)⟩
  · rintro ⟨h, rfl⟩
    exact valueAfter?_ten h n

/-- The value of a row of decimal digits that may be empty. -/
theorem natOfDigits_eq {s : List Char} (h : ∀ c ∈ s, c.isDigit = true) :
    natOfDigits s = Nat.ofDigitChars 10 s 0 := by
  rw [natOfDigits, valueAfter?_ten h]
  rfl

/-- Digits have no sign before them. -/
theorem splitSign_of_digits {s : List Char} (h : ∀ c ∈ s, c.isDigit = true) :
    splitSign s = (false, s) := by
  unfold splitSign
  split
  · exact absurd (h '-' (by simp)) (by decide)
  · exact absurd (h '+' (by simp)) (by decide)
  · rfl

/-- One or more characters have a value just where all of them are digits. -/
theorem valueOf?_ten_eq_some_iff {s : List Char} {m : Nat} :
    valueOf? 10 s = some m ↔
      s ≠ [] ∧ (∀ c ∈ s, c.isDigit = true) ∧ m = Nat.ofDigitChars 10 s 0 := by
  rw [valueOf?]
  cases s with
  | nil => simp
  | cons c s => simp [valueAfter?_ten_eq_some_iff]

/-! ### Written numbers -/

/-- A number is written in digits. -/
theorem isDigit_of_mem_digitChars {n : Nat} {c : Char} (h : c ∈ digitChars n) :
    c.isDigit = true :=
  Nat.isDigit_of_mem_toDigits (by decide) (by decide) h

/-- The digits of a number have its value. -/
theorem valueOf?_digitChars (n : Nat) : valueOf? 10 (digitChars n) = some n := by
  have hdigits : ∀ c ∈ digitChars n, c.isDigit = true := fun c hc => isDigit_of_mem_digitChars hc
  have hvalue : n = Nat.ofDigitChars 10 (digitChars n) 0 := Nat.ofDigitChars_ten_toDigits.symm
  exact valueOf?_ten_eq_some_iff.2 ⟨Nat.toDigits_ne_nil, hdigits, hvalue⟩

/-- The sign that stands before the digits of an integer. -/
def signOf (n : Int) : List Char :=
  if n < 0 then ['-'] else []

/-- An integer is written with its sign and its digits. -/
theorem toList_intText (n : Int) : (intText n).toList = signOf n ++ digitChars n.natAbs := by
  simp [intText, signOf]

/-- No integer is written as an empty text. -/
theorem intText_ne_nil (n : Int) : (intText n).toList ≠ [] := by
  have hne : digitChars n.natAbs ≠ [] := Nat.toDigits_ne_nil
  simp [toList_intText, hne]

/-- The sign and the digits of an integer as it is written. -/
theorem splitSign_intText (n : Int) :
    splitSign (intText n).toList = (decide (n < 0), digitChars n.natAbs) := by
  rw [toList_intText, signOf]
  by_cases h : n < 0
  · rw [if_pos h, decide_eq_true h]
    rfl
  · rw [if_neg h, decide_eq_false h, List.nil_append]
    exact splitSign_of_digits fun c => isDigit_of_mem_digitChars

/-- No two integers are written alike. -/
theorem intText_inj {m n : Int} (h : intText m = intText n) : m = n := by
  have hparts : (decide (m < 0), digitChars m.natAbs) = (decide (n < 0), digitChars n.natAbs) := by
    rw [← splitSign_intText, ← splitSign_intText, h]
  obtain ⟨hsign, hdigits⟩ := Prod.mk.inj hparts
  have hsize : m.natAbs = n.natAbs := by
    have hvalue := valueOf?_digitChars m.natAbs
    rw [hdigits, valueOf?_digitChars] at hvalue
    exact (Option.some.inj hvalue).symm
  have hneg : m < 0 ↔ n < 0 := decide_eq_decide.1 hsign
  omega

end Phrasebook.Number
