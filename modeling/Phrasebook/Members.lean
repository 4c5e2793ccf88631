import Phrasebook.Dict
import Phrasebook.Text.Units

namespace Phrasebook

/-!
# Members

The members of a record, in the order in which a record lists them: names that are array indices
come first, in ascending order, then the other names in the order in which they first came in.  A
name given twice keeps its first place and takes its last value.

* `RecordName`: names, some of which write an array index.
* `arrange`: entries in the order of a record.
* `Members.ofList`: the members that a list of entries builds.
-/

/-- The first number that is no array index. -/
def indexLimit : Nat := 0xFFFFFFFF

/-- The codes of the digits that write a number. -/
def digitCodes (n : Nat) : List Nat :=
  (Nat.toDigits 10 n).map Char.toNat

/-- The array index that a row of character codes writes in canonical decimal. -/
def canonicalIndex? (codes : List Nat) : Option Nat :=
  if codes.isEmpty || !codes.all fun c => 0x30 ≤ c && c ≤ 0x39 then none
  else
    let n := codes.foldl (fun n c => n * 10 + (c - 0x30)) 0
    if n < indexLimit && digitCodes n == codes then some n else none

/-- An index is written in one way. -/
theorem eq_digitCodes {codes : List Nat} {n : Nat} (h : canonicalIndex? codes = some n) :
    codes = digitCodes n := by
  simp only [canonicalIndex?] at h
  split at h
  · exact absurd h (by simp)
  · simp only [Option.ite_none_right_eq_some, Bool.and_eq_true, beq_iff_eq] at h
    obtain ⟨⟨-, hcanonical⟩, hn⟩ := h
    rw [← hcanonical, Option.some.inj hn]

/-- Names, some of which write an array index, and each index in one way. -/
class RecordName (κ : Type) where
  index? : κ → Option Nat
  index?_inj : ∀ {a b : κ} {n : Nat}, index? a = some n → index? b = some n → a = b

open RecordName (index?)

instance : RecordName String where
  index? name := canonicalIndex? (name.toList.map Char.toNat)
  index?_inj ha hb := String.toList_inj.1 <|
    (List.map_inj_right fun _ _ => Char.toNat_inj.1).1
      ((eq_digitCodes ha).trans (eq_digitCodes hb).symm)

instance : RecordName UnitText where
  index? name := canonicalIndex? name.units
  index?_inj ha hb := congrArg UnitText.mk ((eq_digitCodes ha).trans (eq_digitCodes hb).symm)

variable {κ : Type} [DecidableEq κ] [RecordName κ] {α : Type u}

/-- Whether one index name does not come after another. -/
def indexLe (a b : κ × α) : Bool :=
  decide ((index? a.1).getD 0 ≤ (index? b.1).getD 0)

/-- Entries in the order of a record. -/
def arrange (es : List (κ × α)) : List (κ × α) :=
  (es.filter fun e => (index? e.1).isSome).mergeSort indexLe
    ++ es.filter fun e => (index? e.1).isNone

namespace Members

/-- The members that a list of entries builds. -/
def ofList (es : List (κ × α)) : List (κ × α) :=
  arrange (Dict.ofList es).entries

end Members

example : Members.ofList [("b", 1), ("10", 2), ("9", 3), ("01", 4), ("b", 5)]
    = [("9", 3), ("10", 2), ("b", 5), ("01", 4)] := by cbv

end Phrasebook
