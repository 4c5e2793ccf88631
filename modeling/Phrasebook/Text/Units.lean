namespace Phrasebook.Text

/-!
# Text in 16-bit units

Names are ordered, and some lengths counted, by the 16-bit units of a text: a character outside
the basic plane stands as two surrogate units, which sort below the last characters of that plane.

* `units`: the units of a text; `unitsLe` is their order.
* `ofUnits?`: the text with given units, if there is one.
* `sortNames`: names in ascending order of their units, equal ones kept in place.
* `UnitText`: a text given by its units, which may have half of a pair alone.
-/

/-- The 16-bit units of one character. -/
def charUnits (c : Char) : List Nat :=
  let n := c.toNat
  if n < 0x10000 then [n]
  else [0xD800 + (n - 0x10000) / 0x400, 0xDC00 + (n - 0x10000) % 0x400]

/-- The 16-bit units of a text. -/
def units (s : List Char) : List Nat :=
  s.flatMap charUnits

/-- The number of units of a text. -/
def unitCount (s : List Char) : Nat :=
  (units s).length

/-- Whether a unit is a character by itself, and not half of a pair. -/
def standsAlone (n : Nat) : Bool :=
  n < 0xD800 || (0xDFFF < n && n < 0x10000)

/-- The text with these units; none where half of a pair stands without the other half. -/
def ofUnits? : List Nat → Option (List Char)
  | [] => some []
  | n :: ns =>
    if standsAlone n then (ofUnits? ns).map (Char.ofNat n :: ·)
    else
      match ns with
      | [] => none
      | m :: ns =>
        if 0xD800 ≤ n ∧ n < 0xDC00 ∧ 0xDC00 ≤ m ∧ m < 0xE000 then
          (ofUnits? ns).map (Char.ofNat (0x10000 + (n - 0xD800) * 0x400 + (m - 0xDC00)) :: ·)
        else none

/-- Whether one row of units does not come after another: the lower unit decides where they first
    differ, and a row comes before a longer one that starts with it. -/
def unitsLe : List Nat → List Nat → Bool
  | [], _ => true
  | _ :: _, [] => false
  | m :: ms, n :: ns => decide (m < n) || (m == n && unitsLe ms ns)

/-- Whether one name does not come after another. -/
def nameLe (a b : String) : Bool :=
  unitsLe (units a.toList) (units b.toList)

/-- Names in ascending order; equal names keep their order. -/
def sortNames (names : List String) : List String :=
  names.mergeSort nameLe

/-- The text left when its last `n` units are taken away.  A character of which only the second
    half is taken is replaced by U+FFFD. -/
def dropLastUnits (n : Nat) (s : List Char) : List Char :=
  (go n s.reverse).reverse
where
  go : Nat → List Char → List Char
    | 0, s => s
    | _ + 1, [] => []
    | n + 1, c :: s =>
      if (charUnits c).length ≤ n + 1 then go (n + 1 - (charUnits c).length) s
      else '\uFFFD' :: s

@[simp] theorem units_nil : units [] = [] := rfl

@[simp] theorem units_cons (c : Char) (s : List Char) :
    units (c :: s) = charUnits c ++ units s := rfl

theorem units_append (s t : List Char) : units (s ++ t) = units s ++ units t := by
  simp [units]

end Phrasebook.Text

namespace Phrasebook

/-- A text given by its 16-bit units.  Half of a pair may stand alone in it, which no `String`
    has. -/
structure UnitText where
  units : List Nat
  deriving DecidableEq

namespace UnitText

/-- A string in its units. -/
def ofString (s : String) : UnitText :=
  ⟨Text.units s.toList⟩

/-- The string with these units, if there is one. -/
def string? (t : UnitText) : Option String :=
  (Text.ofUnits? t.units).map String.ofList

/-- No half of a pair stands alone. -/
def IsWhole (t : UnitText) : Prop :=
  t.string?.isSome = true

instance (t : UnitText) : Decidable t.IsWhole :=
  inferInstanceAs (Decidable (_ = true))

end UnitText

end Phrasebook
