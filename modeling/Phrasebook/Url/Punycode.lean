namespace Phrasebook.Url.Punycode

/-!
# Labels in plain letters

A label with letters beyond ASCII is also written with plain letters alone: first its own plain
letters, then, after a hyphen, where the others go, in digits to base 36.  How many digits a number
takes follows from the numbers before it.  A label that is already written so has to be read, since
one that stands for no label is in no domain.

* `encode`: the plain letters for a label.
* `decode?`: the label that plain letters stand for.
-/

/-! ### Digits -/

/-- The number of digits. -/
def base : Nat := 36

/-- The greatest number that is read. -/
def limit : Nat := 0x7FFFFFFF

/-- A digit as a character: the small letters, then the ten digits. -/
def digitChar (d : Nat) : Char :=
  if d < 26 then Char.ofNat ('a'.toNat + d) else Char.ofNat ('0'.toNat + (d - 26))

/-- The digit that a character is. -/
def digit? (c : Char) : Option Nat :=
  if 'a' ≤ c ∧ c ≤ 'z' then some (c.toNat - 'a'.toNat)
  else if '0' ≤ c ∧ c ≤ '9' then some (c.toNat - '0'.toNat + 26)
  else none

/-- A digit is read back. -/
theorem digit?_digitChar : ∀ d : Fin base, digit? (digitChar d) = some d.val := by decide

/-- The least digit at a position that is not the last one of its number. -/
def threshold (position bias : Nat) : Nat :=
  if position ≤ bias then 1 else if bias + 26 ≤ position then 26 else position - bias

/-- How often a number is divided until it is small, and what is left of it.  Each step makes it
    35 times smaller. -/
def divided : Nat → Nat → Nat × Nat
  | 0, n => (0, n)
  | fuel + 1, n =>
    if n ≤ 455 then (0, n)
    else
      let r := divided fuel (n / (base - 1))
      (r.1 + 1, r.2)

/-- The bias after a number, where `count` letters then stand in the label. -/
def adapt (isFirst : Bool) (n count : Nat) : Nat :=
  let n := if isFirst then n / 700 else n / 2
  let r := divided n (n + n / count)
  base * r.1 + base * r.2 / (r.2 + 38)

/-- The bias before the first number. -/
def firstBias : Nat := 72

/-- The code point before the first one that is no plain letter. -/
def firstCode : Nat := 0x80

/-- Whether a character is a plain letter. -/
def isPlain (c : Char) : Bool :=
  c.toNat < firstCode

/-! ### Writing -/

/-- A number in digits, from a position on.  The number is smaller at each digit, so that it bounds
    their count. -/
def digitsOf (bias : Nat) : Nat → Nat → Nat → List Char
  | 0, _, n => [digitChar n]
  | fuel + 1, position, n =>
    let t := threshold position bias
    if n < t then [digitChar n]
    else
      digitChar (t + (n - t) % (base - t))
        :: digitsOf bias fuel (position + base) ((n - t) / (base - t))

/-- The digits written so far, how far the place of the next letter is, and how many letters stand
    in the label, plain ones and all. -/
structure Encoder where
  plainCount : Nat
  count : Nat
  distance : Nat := 0
  bias : Nat := firstBias
  written : List Char := []

namespace Encoder

/-- A letter of the label passed, while those with the code point `code` are put in. -/
def pass (code : Nat) (e : Encoder) (c : Char) : Encoder :=
  if c.toNat < code then { e with distance := e.distance + 1 }
  else if c.toNat = code then
    { e with
      count := e.count + 1
      distance := 0
      bias := adapt (e.count == e.plainCount) e.distance (e.count + 1)
      written := e.written ++ digitsOf e.bias e.distance base e.distance }
  else e

/-- Every letter with a code point put in, where `next` is the least one that could come. -/
def insert (label : List Char) (next code : Nat) (e : Encoder) : Encoder :=
  let e := { e with distance := e.distance + (code - next) * (e.count + 1) }
  let e := label.foldl (pass code) e
  { e with distance := e.distance + 1 }

/-- The letters with each of a row of ascending code points put in. -/
def insertAll (label : List Char) : Nat → List Nat → Encoder → Encoder
  | _, [], e => e
  | next, code :: codes, e => insertAll label (code + 1) codes (e.insert label next code)

end Encoder

/-- The plain letters for a label. -/
def encode (label : List Char) : List Char :=
  let plain := label.filter isPlain
  let codes := ((label.filter fun c => !isPlain c).map Char.toNat).eraseDups.mergeSort
  let start : Encoder := { plainCount := plain.length, count := plain.length }
  (if plain.isEmpty then [] else plain ++ ['-'])
    ++ (Encoder.insertAll label firstCode codes start).written

/-! ### Reading -/

/-- The label read so far, and the number being read: its value, what its next digit is worth, and
    at which position that stands. -/
structure Decoder where
  label : List Char
  code : Nat := firstCode
  /-- where the letter after the last one put in would go -/
  start : Nat := 0
  bias : Nat := firstBias
  value : Nat := 0
  weight : Nat := 1
  position : Nat := base

namespace Decoder

/-- A number read: the letter it stands for is put in. -/
def put (d : Decoder) (value : Nat) : Option Decoder :=
  let count := d.label.length + 1
  let code := d.code + value / count
  let place := value % count
  if code.isValidChar then
    some
      { label := d.label.insertIdx place (Char.ofNat code)
        code := code
        start := place + 1
        bias := adapt (d.start == 0) (value - d.start) count
        value := place + 1 }
  else none

/-- A digit read. -/
def step (d : Decoder) (c : Char) : Option Decoder :=
  match digit? c with
  | none => none
  | some n =>
    let value := d.value + n * d.weight
    let t := threshold d.position d.bias
    if limit < value then none
    else if n < t then d.put value
    else
      some { d with value := value, weight := d.weight * (base - t), position := d.position + base }

end Decoder

/-- A text cut at its last hyphen; where there is none, all of it comes after. -/
def splitLast (s : List Char) : List Char × List Char :=
  let after := (s.reverse.takeWhile (· != '-')).reverse
  ((s.take (s.length - after.length)).dropLast, after)

/-- The label that plain letters stand for. -/
def decode? (s : List Char) : Option (List Char) :=
  let (plain, digits) := splitLast s
  match digits.foldlM Decoder.step { label := plain } with
  | some d => if d.position = base then some d.label else none
  | none => none

example : encode "bücher".toList = "bcher-kva".toList := by decide +kernel

example : decode? "bcher-kva".toList = some "bücher".toList := by decide +kernel

example : decode? "bcher-kv".toList = none := by decide +kernel

end Phrasebook.Url.Punycode
