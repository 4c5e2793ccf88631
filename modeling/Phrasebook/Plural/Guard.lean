import Phrasebook.Number.Double

namespace Phrasebook

/-!
# Guards

The condition under which a plural branch is chosen: a list of values, or a range that may be open
at one end.  Templates state guards over the integers; `Guard.map` carries one over to another kind
of number, so that the same definition says when a guard holds of an integer and of a count.

* `Guard`: the four forms.
* `Guard.holds`: whether a guard holds of a number.
-/

/-- A condition on numbers of type `ν`. -/
inductive Guard (ν : Type u)
  /-- one of these values -/
  | oneOf (values : List ν)
  /-- between these bounds, both included -/
  | between (low high : ν)
  /-- at least this -/
  | atLeast (low : ν)
  /-- at most this -/
  | atMost (high : ν)
  deriving DecidableEq, Repr

namespace Guard

variable {ν : Type u} {μ : Type v}

/-- The same condition on other numbers. -/
def map (f : ν → μ) : Guard ν → Guard μ
  | oneOf values => oneOf (values.map f)
  | between low high => between (f low) (f high)
  | atLeast low => atLeast (f low)
  | atMost high => atMost (f high)

/-- The numbers that a guard states. -/
def bounds : Guard ν → List ν
  | oneOf values => values
  | between low high => [low, high]
  | atLeast low => [low]
  | atMost high => [high]

/-- Whether a guard holds of a number. -/
def holds [DecidableEq ν] [LE ν] [DecidableLE ν] (g : Guard ν) (x : ν) : Bool :=
  match g with
  | oneOf values => values.contains x
  | between low high => decide (low ≤ x) && decide (x ≤ high)
  | atLeast low => decide (low ≤ x)
  | atMost high => decide (x ≤ high)

end Guard

/-- A guard of a template, as a condition on counts. -/
def Guard.onCounts (g : Guard Int) : Guard Number.Double :=
  g.map .ofInt

end Phrasebook
