import Phrasebook.Number.Double
import Phrasebook.Text.Blank

namespace Phrasebook.Number

/-!
# Numerals

Reading a number from text.  Blanks around a numeral are ignored and an empty text is zero; whole
numbers may be written to base 16, 8 or 2 after `0x`, `0o` or `0b`, without a sign; a decimal has
an optional sign, digits with at most one point among or beside them, and an optional exponent.

* `decimalDigit?`, `natOfDigits`: digits and their value.
* `Double.ofDecimal`: the number nearest to `n * 10 ^ e`.
* `Double.ofText`: the number that a text writes, NaN where it writes none.
-/

/-- The value of a decimal digit. -/
def decimalDigit? (c : Char) : Option Nat :=
  if '0' ≤ c ∧ c ≤ '9' then some (c.toNat - '0'.toNat) else none

/-- The value of a digit to a base of at most 16. -/
def digit? (base : Nat) (c : Char) : Option Nat :=
  let value? :=
    if '0' ≤ c ∧ c ≤ '9' then some (c.toNat - '0'.toNat)
    else if 'a' ≤ c ∧ c ≤ 'f' then some (c.toNat - 'a'.toNat + 10)
    else if 'A' ≤ c ∧ c ≤ 'F' then some (c.toNat - 'A'.toNat + 10)
    else none
  value?.filter (· < base)

/-- Whether a character is a decimal digit. -/
def isDigit (c : Char) : Bool :=
  (decimalDigit? c).isSome

/-- The value of a row of digits to a base, after the digits read so far. -/
def valueAfter? (base : Nat) (soFar : Nat) : List Char → Option Nat
  | [] => some soFar
  | c :: s => (digit? base c).bind fun d => valueAfter? base (soFar * base + d) s

/-- The value of one or more digits to a base. -/
def valueOf? (base : Nat) (s : List Char) : Option Nat :=
  if s.isEmpty then none else valueAfter? base 0 s

/-- The decimal digits at the start of a text. -/
def leadingDigits (s : List Char) : List Char :=
  s.takeWhile isDigit

/-- A text without the decimal digits at its start. -/
def afterDigits (s : List Char) : List Char :=
  s.dropWhile isDigit

/-- The value of a row of decimal digits. -/
def natOfDigits (s : List Char) : Nat :=
  (valueAfter? 10 0 s).getD 0

/-- A sign at the start of a text, as whether it is a minus, and the text after it. -/
def splitSign : List Char → Bool × List Char
  | '-' :: s => (true, s)
  | '+' :: s => (false, s)
  | s => (false, s)

/-- A number of this many digits before the point, or zeros after it, is out of range. -/
def rangeDigits : Int := 400

namespace Double

/-- The number nearest to `n * 10 ^ e`; beyond 400 digits on either side of the point the result
    does not depend on the digits. -/
def ofDecimal (negative : Bool) (n : Nat) (e : Int) : Double :=
  let point := ((Nat.toDigits 10 n).length : Int) + e
  if n = 0 then zero
  else if rangeDigits < point then infinity negative
  else if point < -rangeDigits then zero
  else ofRatio negative (n * Nat.pow 10 e.toNat) (Nat.pow 10 (-e).toNat)

/-- The exponent that a text states, `0` where the text is empty. -/
def exponent? : List Char → Option Int
  | [] => some 0
  | c :: s =>
    if c = 'e' ∨ c = 'E' then
      let (negative, digits) := splitSign s
      (valueOf? 10 digits).map fun n => if negative then -(n : Int) else n
    else none

/-- The number that digits, an optional point and more digits, and an optional exponent write. -/
def ofUnsigned (negative : Bool) (s : List Char) : Double :=
  if s = "Infinity".toList then infinity negative
  else
    let whole := leadingDigits s
    let (places, rest) :=
      match afterDigits s with
      | '.' :: t => (leadingDigits t, afterDigits t)
      | t => ([], t)
    if whole.isEmpty && places.isEmpty then nan
    else
      match exponent? rest with
      | some e => ofDecimal negative (natOfDigits (whole ++ places)) (e - (places.length : Int))
      | none => nan

/-- The number that a whole numeral to a base other than ten writes. -/
def ofBase (base : Nat) (s : List Char) : Double :=
  match valueOf? base s with
  | some n => ofInt n
  | none => nan

/-- The number that a text writes. -/
def ofText (s : List Char) : Double :=
  match Text.trim s with
  | [] => zero
  | '0' :: 'x' :: t | '0' :: 'X' :: t => ofBase 16 t
  | '0' :: 'o' :: t | '0' :: 'O' :: t => ofBase 8 t
  | '0' :: 'b' :: t | '0' :: 'B' :: t => ofBase 2 t
  | t => let (negative, u) := splitSign t; ofUnsigned negative u

end Double

end Phrasebook.Number
