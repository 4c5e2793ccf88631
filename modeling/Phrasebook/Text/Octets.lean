namespace Phrasebook.Text

/-!
# Text in octets

UTF-8, both ways.  Every octet sequence decodes: the longest start of a character that its next
octet rules out becomes one U+FFFD, and decoding goes on at that octet.

* `octets`: the octets of a text.
* `Pending`: a character of which octets are still owed.
* `ofOctets`: the text of an octet sequence.
-/

/-- The octets of a character. -/
def charOctets (c : Char) : List Nat :=
  let n := c.toNat
  if n < 0x80 then [n]
  else if n < 0x800 then [0xC0 + n / 0x40, 0x80 + n % 0x40]
  else if n < 0x10000 then [0xE0 + n / 0x1000, 0x80 + n / 0x40 % 0x40, 0x80 + n % 0x40]
  else
    [0xF0 + n / 0x40000, 0x80 + n / 0x1000 % 0x40, 0x80 + n / 0x40 % 0x40, 0x80 + n % 0x40]

/-- The octets of a text. -/
def octets (s : List Char) : List Nat :=
  s.flatMap charOctets

/-- A character begun: the value of its octets so far, how many octets it still needs, and the
    range that the next one has to lie in. -/
structure Pending where
  value : Nat
  needed : Nat
  low : Nat := 0x80
  high : Nat := 0xBF

/-- What an octet between characters gives: a whole character, or the start of one. -/
def firstOctet (b : Nat) : List Char × Option Pending :=
  if b ≤ 0x7F then ([Char.ofNat b], none)
  else if 0xC2 ≤ b && b ≤ 0xDF then ([], some { value := b - 0xC0, needed := 1 })
  else if 0xE0 ≤ b && b ≤ 0xEF then
    ([], some { value := b - 0xE0, needed := 2, low := if b == 0xE0 then 0xA0 else 0x80,
                high := if b == 0xED then 0x9F else 0xBF })
  else if 0xF0 ≤ b && b ≤ 0xF4 then
    ([], some { value := b - 0xF0, needed := 3, low := if b == 0xF0 then 0x90 else 0x80,
                high := if b == 0xF4 then 0x8F else 0xBF })
  else (['\uFFFD'], none)

/-- What the next octet of a begun character gives. -/
def nextOctet (p : Pending) (b : Nat) : List Char × Option Pending :=
  if p.low ≤ b && b ≤ p.high then
    let value := p.value * 0x40 + (b - 0x80)
    if p.needed ≤ 1 then ([Char.ofNat value], none)
    else ([], some { value := value, needed := p.needed - 1 })
  else
    let (cs, q) := firstOctet b
    ('\uFFFD' :: cs, q)

/-- The text of the octets after a character that may have begun. -/
def ofOctetsAfter : Option Pending → List Nat → List Char
  | none, [] => []
  | some _, [] => ['\uFFFD']
  | none, b :: bs => (firstOctet b).1 ++ ofOctetsAfter (firstOctet b).2 bs
  | some p, b :: bs => (nextOctet p b).1 ++ ofOctetsAfter (nextOctet p b).2 bs

/-- The text of an octet sequence. -/
def ofOctets (bs : List Nat) : List Char :=
  ofOctetsAfter none bs

-- An overlong form is three broken starts; a truncated character is one.
example : ofOctets [0xE0, 0x80, 0xAF, 0x41, 0xF0, 0x9F, 0x98]
    = ['\uFFFD', '\uFFFD', '\uFFFD', 'A', '\uFFFD'] := by decide

-- A character of each length is read back.
example : ofOctets (octets ['A', 'é', '€', '😀']) = ['A', 'é', '€', '😀'] := by decide

end Phrasebook.Text
