import Phrasebook.Bag
import Phrasebook.Formatter
import Phrasebook.LocaleRef

namespace Phrasebook

/-!
# Resolving messages

A message is looked for in the locale asked for, then in its language, then in the fallback locale
and its language; the first template found is formatted.

* `lookupChain`: the locales that are tried.
* `Bag.resolve`: the first template found along a chain.
* `render`: the message, or why there is none.
* `Attempt`: a message or an error of this library, with every other failure left a failure.
-/

/-- Locales with more locales after them, those that are there already left out. -/
def addMissing (ls more : List Locale) : List Locale :=
  more.foldl (fun ls l => if l ∈ ls then ls else ls ++ [l]) ls

/-- The locales that are tried for one, the most specific first. -/
def lookupChain (fallback : Option Locale) (l : Locale) : List Locale :=
  addMissing l.chain ((fallback.map Locale.chain).getD [])

/-- A template, and the locale whose catalogue has it. -/
structure Resolved where
  locale : Locale
  template : String
  deriving DecidableEq

/-- The first template found along a chain. -/
def Bag.resolve (b : Bag) (chain : List Locale) (domain id : String) : Option Resolved :=
  chain.findSome? fun l => (b.template? l domain id).map fun t => ⟨l, t⟩

/-- A message, and the locale whose catalogue has its template. -/
structure Rendered where
  message : String
  locale : Locale
  deriving DecidableEq

/-- What a formatter's outcome means for a template that was found. -/
def Resolved.answer (r : Resolved) (domain id : String) : Outcome → Except Failure Rendered
  | .formatted message => .ok ⟨message, r.locale⟩
  | .missingCount => .error (.fault (.missingCount r.locale domain id))
  | .failed f => .error f

/-- The message of a domain and an id along a chain, and the formatter after it. -/
def render (b : Bag) (chain : List Locale) (f : Formatter) (domain id : String) (c : Context) :
    Except Failure Rendered × Formatter :=
  match b.resolve chain domain id with
  | none => (.error (.fault (.notFound domain id chain)), f)
  | some r =>
    let (outcome, f) := f.format r.locale r.template c
    (r.answer domain id outcome, f)

/-- What an attempt to render a message comes to. -/
inductive Attempt
  | success (r : Rendered)
  | refused (f : Fault)

/-- A rendering with the errors of this library as answers. -/
def attempt : Except Failure Rendered → Except Failure Attempt
  | .ok r => .ok (.success r)
  | .error (.fault f) => .ok (.refused f)
  | .error f => .error f

end Phrasebook
