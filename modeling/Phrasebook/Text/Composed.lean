import Phrasebook.Text.Casing
import Phrasebook.Text.ComposedTable

namespace Phrasebook.Text

/-!
# Composed text

A letter with its marks can be written in several ways.  In its composed form a text has one
character wherever one stands for several, and marks that do not touch each other stand in a fixed
order.

* `takeApart`: what a character is made of.
* `order`: a text with its marks in order.
* `putTogether`: a text with every pair that makes one character made so.
* `composed`: the composed form of a text.
-/

open ComposedTable (replaced apart marks)

/-! ### Hangul -/

/-- The first leading consonant, vowel, trailing consonant and syllable; before the first trailing
    consonant is the place of none. -/
structure HangulStart where
  leading : Nat := 0x1100
  vowel : Nat := 0x1161
  trailing : Nat := 0x11A7
  syllable : Nat := 0xAC00

/-- Where the parts of Hangul start. -/
def hangulStart : HangulStart := {}

/-- The number of leading consonants. -/
def leadingCount : Nat := 19

/-- The number of vowels. -/
def vowelCount : Nat := 21

/-- The number of trailing consonants, counting none. -/
def trailingCount : Nat := 28

/-- Whether a code point is one of `count` from a first one on. -/
def isWithin (first count n : Nat) : Bool :=
  first ≤ n && n < first + count

/-- The parts of a Hangul syllable. -/
def syllableParts? (n : Nat) : Option (List Nat) :=
  if isWithin hangulStart.syllable (leadingCount * vowelCount * trailingCount) n then
    let i := n - hangulStart.syllable
    let t := i % trailingCount
    some ([hangulStart.leading + i / (vowelCount * trailingCount),
      hangulStart.vowel + i / trailingCount % vowelCount]
        ++ if t = 0 then [] else [hangulStart.trailing + t])
  else none

/-- The syllable that two parts make: a leading consonant and a vowel, or a syllable without a
    trailing consonant and one. -/
def syllable? (a b : Nat) : Option Nat :=
  if isWithin hangulStart.leading leadingCount a && isWithin hangulStart.vowel vowelCount b then
    some (hangulStart.syllable
      + ((a - hangulStart.leading) * vowelCount + (b - hangulStart.vowel)) * trailingCount)
  else if isWithin hangulStart.syllable (leadingCount * vowelCount * trailingCount) a
      && (a - hangulStart.syllable) % trailingCount == 0
      && isWithin (hangulStart.trailing + 1) (trailingCount - 1) b then
    some (a + (b - hangulStart.trailing))
  else none

/-! ### Taking apart -/

/-- What stands at a code point in rows of consecutive ones. -/
def inRows? {α : Type} (rows : List (Nat × List α)) (n : Nat) : Option α :=
  rows.findSome? fun r => if r.1 ≤ n then r.2[n - r.1]? else none

/-- The pair that makes a character. -/
def pairOf? (n : Nat) : Option (Nat × Nat) :=
  (ComposedTable.composed.findSome? fun m =>
    (m.2.find? fun p => p.2 == n).map fun p => (p.1, m.1)).or (apart.lookup n)

/-- What a character is made of, one step down. -/
def partsOf? (n : Nat) : Option (List Nat) :=
  ((syllableParts? n).or ((inRows? replaced n).map fun m => [m])).or
    ((pairOf? n).map fun p => [p.1, p.2])

/-- How often what a character is made of can be taken apart again. -/
def depth : Nat := 4

/-- What a character is made of, up to `k` steps down. -/
def takeApartWithin : Nat → Nat → List Nat
  | 0, n => [n]
  | k + 1, n =>
    match partsOf? n with
    | some ns => ns.flatMap (takeApartWithin k)
    | none => [n]

/-- What a character is made of. -/
def takeApart (n : Nat) : List Nat :=
  if n < 0x80 then [n] else takeApartWithin depth n

/-! ### Marks in order -/

/-- The place that a character takes among marks; characters that are no marks have none. -/
def markPlace (n : Nat) : Nat :=
  if n < 0x80 then 0
  else ((marks.find? fun r => decide (r.1 ≤ n) && decide (n ≤ r.2.1)).map fun r => r.2.2).getD 0

/-- A character put at the end of a text in reverse, before the marks there whose place is after
    its own. -/
def place (n : Nat) : List Nat → List Nat
  | [] => [n]
  | m :: ms =>
    if 0 < markPlace n ∧ markPlace n < markPlace m then m :: place n ms else n :: m :: ms

/-- A text with its marks in order; marks of one place stay as they are. -/
def order (ns : List Nat) : List Nat :=
  (ns.foldl (fun done n => place n done) []).reverse

/-! ### Putting together -/

/-- The character that two make. -/
def together? (a b : Nat) : Option Nat :=
  (syllable? a b).or ((ComposedTable.composed.lookup b).bind fun ps => ps.lookup a)

/-- What follows a character, with all that makes one with it: `left` are the marks after it, in
    reverse, that do not, and `last` is the place of the last of them.  A mark is held off by
    another of its place or a later one. -/
def putTogetherFrom (base : Nat) (left : List Nat) (last : Nat) : List Nat → List Nat
  | [] => base :: left.reverse
  | n :: ns =>
    let k := markPlace n
    match if left.isEmpty || last < k then together? base n else none with
    | some whole => putTogetherFrom whole left last ns
    | none =>
      if k = 0 then base :: (left.reverse ++ putTogetherFrom n [] 0 ns)
      else putTogetherFrom base (n :: left) k ns

/-- A text with every pair that makes one character made so. -/
def putTogether : List Nat → List Nat
  | [] => []
  | n :: ns => if markPlace n = 0 then putTogetherFrom n [] 0 ns else n :: putTogether ns

/-- The composed form of a text. -/
def composed (s : List Char) : List Char :=
  (putTogether (order (s.flatMap fun c => takeApart c.toNat))).map Char.ofNat

@[simp] theorem composed_nil : composed [] = [] := rfl

-- A letter takes the marks that touch it, in any order they are given.
example : composed ['s', '\u0307', '\u0323'] = ['ṩ'] := by decide +kernel

-- A syllable is made of its parts.
example : composed ['\u1112', '\u1161', '\u11AB'] = ['한'] := by decide +kernel

end Phrasebook.Text
