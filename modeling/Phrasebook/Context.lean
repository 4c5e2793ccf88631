import Phrasebook.Members
import Phrasebook.Scalar

namespace Phrasebook

/-!
# Contexts

What a message is given: named values in an order, and perhaps the count that chooses among its
plural branches.

* `Context`: the values and the count.
* `Context.get?`, `Context.at?`: a value by name and by position.
* `Given`: the forms in which a caller may state a context; `Context.ofGiven` reads them.
-/

/-- Named values, and the count if there is one. -/
structure Context where
  values : List (String × Scalar) := []
  count : Option Scalar := none
  deriving DecidableEq

namespace Context

/-- The context that gives nothing. -/
def empty : Context := {}

/-- The number of values. -/
def size (c : Context) : Nat :=
  c.values.length

/-- Whether there is a count. -/
def hasCount (c : Context) : Bool :=
  c.count.isSome

/-- The value of the first entry with this name. -/
def get? (c : Context) (name : String) : Option Scalar :=
  lookupEntry name c.values

/-- The value at a position. -/
def at? (c : Context) (position : Nat) : Option Scalar :=
  (c.values[position]?).map Prod.snd

/-- The same values with another count. -/
def withCount (c : Context) (count : Option Scalar) : Context :=
  { c with count := count }

/-- The name under which a record of values also states the count. -/
def countName : String := "count"

/-- The context of a record of values: those that are there, and the one named `count` as the
    count. -/
def ofMembers (members : List (String × Option Scalar)) : Context where
  values := members.filterMap fun m => m.2.map (m.1, ·)
  count := (lookupEntry countName members).join

end Context

/-- The forms in which a context is given. -/
inductive Given
  /-- not at all -/
  | nothing
  /-- as a bare count -/
  | count (n : Scalar)
  /-- as a record, whose members may be absent -/
  | members (ms : List (String × Option Scalar))
  /-- as it is -/
  | context (c : Context)

/-- The context that is given. -/
def Context.ofGiven : Given → Context
  | .nothing => empty
  | .count n => { count := some n }
  | .members ms => ofMembers ms
  | .context c => c

end Phrasebook
