import Phrasebook.Proofs.Number.Rounding

namespace Phrasebook.Number

/-!
# Texts that write an integer

An integer is written in digits, with a sign or without one and with blanks around it or without
them.  As a number such a text is the integer rounded once, so of the integers of at most 53 bits
nothing is lost, and none of the others is taken for one of them.

* `IntegerText`: the parts of such a text; `IntegerText.text` and `IntegerText.value`.
* `IntegerText.ofText_text`: the number that the text is read as.
* `IntegerText.toSafeInt?_ofText`: the integer that this number is.
-/

/-- The parts of a text that writes an integer. -/
structure IntegerText where
  before : List Char
  sign : List Char
  digits : List Char
  after : List Char
  blank_before : ∀ c ∈ before, Text.isBlank c = true
  blank_after : ∀ c ∈ after, Text.isBlank c = true
  isSign : sign = [] ∨ sign = ['+'] ∨ sign = ['-']
  isDigit : ∀ c ∈ digits, c.isDigit = true
  digits_ne_nil : digits ≠ []

namespace IntegerText

/-- The text of its parts. -/
def text (d : IntegerText) : List Char :=
  d.before ++ (d.sign ++ d.digits) ++ d.after

/-- Whether the sign is a minus. -/
def isNegative (d : IntegerText) : Bool :=
  d.sign == ['-']

/-- The integer that is written. -/
def value (d : IntegerText) : Int :=
  if d.isNegative then -(Nat.ofDigitChars 10 d.digits 0 : Int) else Nat.ofDigitChars 10 d.digits 0

/-- The size of an integer text is that of its digits. -/
theorem natAbs_value (d : IntegerText) : d.value.natAbs = Nat.ofDigitChars 10 d.digits 0 := by
  unfold value
  split
  · exact (Int.natAbs_neg _).trans (Int.natAbs_natCast _)
  · exact Int.natAbs_natCast _

/-- The blanks around a sign and digits are what trimming takes away. -/
theorem trim_text (d : IntegerText) : Text.trim d.text = d.sign ++ d.digits := by
  have hmiddle : ∀ c ∈ d.sign ++ d.digits, Text.isBlank c = false := by
    intro c hc
    rcases List.mem_append.1 hc with hc | hc
    · rcases d.isSign with h | h | h <;> rw [h] at hc
      · exact absurd hc List.not_mem_nil
      · rw [List.mem_singleton.1 hc]
        decide
      · rw [List.mem_singleton.1 hc]
        decide
    · exact (Double.apart_of_isDigit (d.isDigit c hc)).1
  exact Text.trim_surrounded d.blank_before (Text.trimmed_of_forall hmiddle) d.blank_after

/-- Without blanks, an integer text is its sign and its digits. -/
theorem splitSign_trim_text (d : IntegerText) :
    splitSign (Text.trim d.text) = (d.isNegative, d.digits) := by
  rw [trim_text, isNegative]
  rcases d.isSign with h | h | h <;> rw [h]
  · exact splitSign_of_digits d.isDigit
  · rfl
  · rfl

/-- A text is a sign and digits, but for the blanks around it, just where it has such parts. -/
theorem exists_of_splitSign {s digits : List Char} {negative : Bool}
    (hsplit : splitSign (Text.trim s) = (negative, digits))
    (hdigits : ∀ c ∈ digits, c.isDigit = true) (hne : digits ≠ []) :
    ∃ d : IntegerText, d.text = s ∧ d.isNegative = negative ∧ d.digits = digits := by
  obtain ⟨before, after, hbefore, hafter, hs⟩ := Text.exists_surrounded s
  have hparts : ∀ sign : List Char, (sign = [] ∨ sign = ['+'] ∨ sign = ['-']) →
      Text.trim s = sign ++ digits → (sign == ['-']) = negative →
      ∃ d : IntegerText, d.text = s ∧ d.isNegative = negative ∧ d.digits = digits := by
    intro sign hsign htrim hnegative
    refine ⟨⟨before, sign, digits, after, hbefore, hafter, hsign, hdigits, hne⟩, ?_, hnegative, rfl⟩
    rw [text, ← htrim]
    exact hs.symm
  unfold splitSign at hsplit
  split at hsplit
  · next t htrim =>
    obtain ⟨rfl, rfl⟩ := Prod.mk.inj hsplit
    exact hparts ['-'] (by simp) htrim rfl
  · next t htrim =>
    obtain ⟨rfl, rfl⟩ := Prod.mk.inj hsplit
    exact hparts ['+'] (by simp) htrim rfl
  · obtain ⟨rfl, hdigits'⟩ := Prod.mk.inj hsplit
    exact hparts [] (by simp) hdigits' rfl

/-! ### As a number -/

/-- The text is read as the number of its integer, unless that is out of range. -/
theorem ofText_text (d : IntegerText) :
    Double.ofText d.text = .ofInt d.value ∨
      Double.maxSafe < d.value.natAbs ∧ Double.ofText d.text = .infinity d.isNegative := by
  rw [Double.ofText_of_digits d.splitSign_trim_text d.isDigit d.digits_ne_nil, natAbs_value]
  exact Double.ofDecimal_integer d.isNegative _

/-- A text that is read as a finite number is read as that of its integer. -/
theorem ofText_of_isFinite {d : IntegerText} (h : (Double.ofText d.text).isFinite = true) :
    Double.ofText d.text = .ofInt d.value := by
  refine d.ofText_text.resolve_right fun hrange => ?_
  rw [hrange.2] at h
  exact Bool.false_ne_true h

/-- As an integer of at most 53 bits, that number is what is written or nothing at all. -/
theorem toSafeInt?_ofText (d : IntegerText) :
    (Double.ofText d.text).toSafeInt?
      = if d.value.natAbs ≤ Double.maxSafe then some d.value else none := by
  rcases d.ofText_text with h | ⟨hlarge, h⟩
  · rw [h, Double.toSafeInt?_ofInt]
  · rw [h, if_neg (by omega)]
    rfl

end IntegerText

end Phrasebook.Number
