import Phrasebook.Number.Shortest

namespace Phrasebook.Number

/-!
# Written numbers

How a number is written: the shortest digits that read back, positional from `0.000001` up to 21
digits before the point and with an exponent outside that range.

* `Double.text`: the digits of a number as it is shown.
* `Double.fixed`: a number with two decimal places.
* `digitChars`: the decimal digits of a natural number; `intText` adds the sign of an integer.
-/

/-- The decimal digits of a natural number. -/
def digitChars (n : Nat) : List Char :=
  Nat.toDigits 10 n

/-- An integer in decimal. -/
def intText (n : Int) : String :=
  String.ofList ((if n < 0 then ['-'] else []) ++ digitChars n.natAbs)

/-- The greatest number of digits before the point in positional form. -/
def positionalLimit : Int := 21

/-- The greatest number of zeros between the point and the first digit in positional form, plus
    one. -/
def smallLimit : Int := -6

/-- A decimal as it is written, where the point stands after `point` digits. -/
def layout (digits : List Char) (point : Int) : List Char :=
  let size : Int := digits.length
  if size ≤ point && point ≤ positionalLimit then
    digits ++ List.replicate (point - size).toNat '0'
  else if 0 < point && point ≤ positionalLimit then
    digits.take point.toNat ++ '.' :: digits.drop point.toNat
  else if smallLimit < point && point ≤ 0 then
    '0' :: '.' :: (List.replicate (-point).toNat '0' ++ digits)
  else
    let exponent := point - 1
    let mark := 'e' :: (if exponent < 0 then '-' else '+') :: digitChars exponent.natAbs
    match digits with
    | [] => mark
    | [d] => d :: mark
    | d :: rest => d :: '.' :: (rest ++ mark)

/-- The text of a magnitude of `n` units. -/
def magnitudeText (n : Nat) : List Char :=
  if n = 0 then ['0']
  else
    let x := shortest n
    let digits := digitChars x.digits
    layout digits (digits.length + x.exponent)

namespace Double

/-- A number as it is shown. -/
def text : Double → String
  | nan => "NaN"
  | infinity negative => if negative then "-Infinity" else "Infinity"
  | finite u _ => String.ofList ((if u < 0 then ['-'] else []) ++ magnitudeText u.natAbs)

/-- The first magnitude that `fixed` writes as `text` does: `10 ^ 21`. -/
def fixedLimit : Nat := Nat.pow 10 21 * Nat.pow 2 scale

/-- A number with two decimal places, rounded from its exact value, a half away from zero. -/
def fixed : Double → String
  | finite u h =>
    if fixedLimit ≤ u.natAbs then text (finite u h)
    else
      let hundredths := (u.natAbs * 200 + Nat.pow 2 scale) / (2 * Nat.pow 2 scale)
      let cents := hundredths % 100
      String.ofList ((if u < 0 then ['-'] else []) ++ digitChars (hundredths / 100)
        ++ '.' :: digitChars (cents / 10) ++ digitChars (cents % 10))
  | x => text x

example : text (ofRatio false 1 10) = "0.1" := by decide +kernel

example : text (ofRatio true 5 (10 ^ 324)) = "-5e-324" := by decide +kernel

example : text (ofInt (10 ^ 21)) = "1e+21" := by decide +kernel

example : fixed (ofRatio false 1015 1000) = "1.01" := by decide +kernel

end Double

end Phrasebook.Number
