import Phrasebook.Number.Numeral
import Phrasebook.Text.Literal
import Phrasebook.Text.Octets

namespace Phrasebook.Text

/-!
# Octets written as text

Three ways in which octets are written with plain characters, and how they are read.

* `ofHex`: pairs of hexadecimal digits.
* `ofBase64`: four characters for three octets.
* `percentDecode`, `percentEncode`: a percent sign and two digits for an octet, among other
  characters.
-/

/-- The octets of the pairs of hexadecimal digits at the start of a text. -/
def ofHex : List Char → List UInt8
  | a :: b :: s =>
    match Number.digit? 16 a, Number.digit? 16 b with
    | some x, some y => UInt8.ofNat (x * 16 + y) :: ofHex s
    | _, _ => []
  | _ => []

/-- The six bits that a character of one octet stands for, in either of the two alphabets. -/
def sextet? (b : Nat) : Option Nat :=
  let c := Char.ofNat b
  if 'A' ≤ c ∧ c ≤ 'Z' then some (c.toNat - 'A'.toNat)
  else if 'a' ≤ c ∧ c ≤ 'z' then some (c.toNat - 'a'.toNat + 26)
  else if '0' ≤ c ∧ c ≤ '9' then some (c.toNat - '0'.toNat + 52)
  else if c = '+' ∨ c = '-' then some 62
  else if c = '/' ∨ c = '_' then some 63
  else none

/-- The octets of rows of six bits; bits that fill no octet do not count. -/
def ofSextets : List Nat → List UInt8
  | a :: b :: c :: d :: s =>
    UInt8.ofNat (a * 4 + b / 16) :: UInt8.ofNat (b % 16 * 16 + c / 4)
      :: UInt8.ofNat (c % 4 * 64 + d) :: ofSextets s
  | [a, b, c] => [UInt8.ofNat (a * 4 + b / 16), UInt8.ofNat (b % 16 * 16 + c / 4)]
  | [a, b] => [UInt8.ofNat (a * 4 + b / 16)]
  | _ => []

/-- The octets of a text in base 64, up to the first sign that fills it up; other characters of
    neither alphabet are passed over.  A unit of more than one octet counts by its lowest one. -/
def ofBase64 (s : List Char) : List UInt8 :=
  let bs := (units s).map (· % 0x100)
  ofSextets ((bs.takeWhile (· != '='.toNat)).filterMap sextet?)

/-- The octets of a text in which a percent sign and two digits stand for an octet. -/
def percentDecode : List Char → List Nat
  | '%' :: a :: b :: s =>
    match Number.digit? 16 a, Number.digit? 16 b with
    | some x, some y => (x * 16 + y) :: percentDecode s
    | _, _ => 0x25 :: percentDecode (a :: b :: s)
  | c :: s => charOctets c ++ percentDecode s
  | [] => []

/-- An octet as a percent sign and two digits. -/
def percentOctet (b : Nat) : List Char :=
  '%' :: hexPair b

/-- A text with the octets of some of its characters written with percent signs. -/
def percentEncode (isEncoded : Char → Bool) (s : List Char) : List Char :=
  s.flatMap fun c => if isEncoded c then (charOctets c).flatMap percentOctet else [c]

example : ofBase64 "YWI_ Yw==YWI_".toList = [0x61, 0x62, 0x3F, 0x63] := by decide +kernel

example : percentDecode "a%C3%A9%".toList = [0x61, 0xC3, 0xA9, 0x25] := by decide +kernel

end Phrasebook.Text
