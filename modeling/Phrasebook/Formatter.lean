import Phrasebook.Fault
import Phrasebook.Segment

namespace Phrasebook

/-!
# Formatters

A formatter turns a template and a context into a message.

* `Template.format`: the rule; a count chooses among plural branches, then placeholders are filled
  in.
* `Formatter`: the rule behind a template cache, or a rule of the caller's own.
-/

/-- What formatting comes to. -/
inductive Outcome
  /-- a message -/
  | formatted (message : String)
  /-- the template has plural branches and there is no count -/
  | missingCount
  /-- no message -/
  | failed (f : Failure)

/-- A template in a context. -/
def Template.format (t : Template) (c : Context) : Outcome :=
  match t with
  | .simple text => .formatted (interpolate text c)
  | .plural branches fallback =>
    match c.count with
    | none => .missingCount
    | some n => .formatted (interpolate (select branches fallback n) c)

/-- A source in a context, read anew. -/
def formatSource (source : String) (c : Context) : Outcome :=
  match Template.parse source with
  | .ok t => t.format c
  | .error f => .failed (.fault (.ofTemplate source f))

/-- How messages are formatted. -/
inductive Formatter
  /-- by the rule above, with the templates used last kept -/
  | cached (cache : Cache)
  /-- by a rule of the caller's own -/
  | custom (answer : Locale → String → Context → Outcome)

namespace Formatter

/-- The message of a source in a context, and the formatter after it. -/
def format (f : Formatter) (l : Locale) (source : String) (c : Context) : Outcome × Formatter :=
  match f with
  | custom answer => (answer l source c, f)
  | cached cache =>
    match cache.use source with
    | .ok (r, cache) => (r.template.format c, cached cache)
    | .error fault => (.failed (.fault (.ofTemplate source fault)), f)

/-- The formatter with an empty cache of a stated capacity. -/
def ofCapacity (stated : Option Number.Double) : Except CapacityFault Formatter :=
  (capacityOf stated).map fun n => cached { capacity := n }

/-- The formatter with an empty cache of the usual capacity. -/
def usual : Formatter :=
  cached { capacity := Cache.defaultCapacity }

end Formatter

end Phrasebook
