import Phrasebook.LeastRecent
import Phrasebook.Plural.Template

namespace Phrasebook

/-!
# The template cache

The templates read last, so that a template in use is read once.  A cache holds at most as many as
its capacity; what was used least recently gives way first.

* `Cache`: the templates, the one used last in front.
* `Cache.use`: the template of a source, from the cache or newly read.
* `capacityOf`: the capacity that a number states.

Each reading has a number of its own, which tells whether two uses gave the very same template.
-/

/-- A template, and which reading it came from. -/
structure Reading where
  serial : Nat
  template : Template
  deriving DecidableEq

/-- The readings that are kept, the one used last in front, each under its source. -/
structure Cache where
  capacity : Nat
  entries : List (String × Reading) := []
  /-- how many templates have been read -/
  readings : Nat := 0
  deriving DecidableEq

namespace Cache

/-- How many templates are kept. -/
def size (c : Cache) : Nat :=
  c.entries.length

/-- The reading kept for a source. -/
def get? (c : Cache) (source : String) : Option Reading :=
  lookupEntry source c.entries

/-- The template of a source.  A malformed template is not kept. -/
def use (c : Cache) (source : String) : Except TemplateFault (Reading × Cache) :=
  match useRules.find source c.entries with
  | (some r, entries) => .ok (r, { c with entries := entries })
  | (none, entries) =>
    match Template.parse source with
    | .error f => .error f
    | .ok t =>
      let r : Reading := ⟨c.readings, t⟩
      .ok (r, { c with
        entries := useRules.add c.capacity source r entries
        readings := c.readings + 1 })

/-- The capacity when none is stated. -/
def defaultCapacity : Nat := 500

end Cache

/-- The capacity that a number states. -/
def capacityOf (stated : Option Number.Double) : Except CapacityFault Nat :=
  match stated with
  | none => .ok Cache.defaultCapacity
  | some x => capacityRules.read x

end Phrasebook
