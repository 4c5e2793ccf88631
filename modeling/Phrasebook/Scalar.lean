import Phrasebook.Number.Layout
import Phrasebook.Number.Numeral

namespace Phrasebook

/-!
# Scalars

The values that a message can be given: texts, numbers, integers of any size and truth values.

* `Scalar.shown`: how a value is shown, in every locale alike.
* `Scalar.count?`: the number that a value counts, where it counts one.
-/

/-- A value for a placeholder or a count. -/
inductive Scalar
  | text (s : String)
  | number (x : Number.Double)
  | integer (n : Int)
  | truth (b : Bool)
  deriving DecidableEq

namespace Scalar

/-- A value as it is shown. -/
def shown : Scalar → String
  | text s => s
  | number x => x.text
  | integer n => Number.intText n
  | truth b => if b then "true" else "false"

/-- The number that a value counts.  An integer is rounded to double precision; a text counts what
    it writes unless it is blank; a number that is not finite counts nothing, and nor does a truth
    value. -/
def count? : Scalar → Option Number.Double
  | number x => if x.isFinite then some x else none
  | integer n => some (.ofInt n)
  | text s =>
    if (Text.trim s.toList).isEmpty then none
    else
      let x := Number.Double.ofText s.toList
      if x.isFinite then some x else none
  | truth _ => none

end Scalar

end Phrasebook
