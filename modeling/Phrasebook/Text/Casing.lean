import Phrasebook.Text.CaseTable

namespace Phrasebook.Text

/-!
# Letter case

Full case mapping, in which a letter may become several (`ﬁ` is `FI` in upper case) and a final
sigma has a form of its own in lower case.

* `lower`, `upper`: the lower and upper case of a text.
* `charLower`, `charUpper`: of one character, out of context.
-/

open CaseTable

/-- Whether a code point lies in one of a list of closed ranges. -/
def inRanges (ranges : List (Nat × Nat)) (n : Nat) : Bool :=
  ranges.any fun r => decide (r.1 ≤ n) && decide (n ≤ r.2)

/-- A character's other case: the several characters the second table gives, or the one that its
    run gives, or itself. -/
def mapChar (runs : List Run) (long : List (Nat × List Nat)) (c : Char) : List Char :=
  match long.lookup c.toNat with
  | some ns => ns.map Char.ofNat
  | none =>
    match runs.find? (·.holds c.toNat) with
    | some r => [Char.ofNat ((c.toNat : Int) + r.shift).toNat]
    | none => [c]

/-- The lower case of a character; the 26 capitals of ASCII need no table. -/
def charLower (c : Char) : List Char :=
  if c.toNat < 0x80 then [c.toLower] else mapChar CaseTable.lower lowerLong c

/-- The upper case of a character; the 26 small letters of ASCII need no table. -/
def charUpper (c : Char) : List Char :=
  if c.toNat < 0x80 then [c.toUpper] else mapChar CaseTable.upper upperLong c

/-- Whether the nearest character that is not passed over is a letter with case. -/
def nextIsCased (s : List Char) : Bool :=
  match s.dropWhile fun c => inRanges ignorable c.toNat with
  | [] => false
  | c :: _ => inRanges cased c.toNat

/-- The lower case of a text, given the characters before it in reverse: a sigma that ends a word
    becomes `ς`. -/
def lowerAfter (before : List Char) : List Char → List Char
  | [] => []
  | c :: s =>
    (if c == 'Σ' && nextIsCased before && !nextIsCased s then ['ς'] else charLower c)
      ++ lowerAfter (c :: before) s

/-- The lower case of a text. -/
def lower (s : List Char) : List Char :=
  lowerAfter [] s

/-- The upper case of a text. -/
def upper (s : List Char) : List Char :=
  s.flatMap charUpper

@[simp] theorem lower_nil : lower [] = [] := rfl

@[simp] theorem upper_nil : upper [] = [] := rfl

end Phrasebook.Text
